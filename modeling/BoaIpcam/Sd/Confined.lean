import BoaIpcam.Sd.Handlers
import BoaIpcam.Lib.Splits

/-!
# Confinement to the memory card

When the path names of the handlers stay on the card. Nothing removes the names `.` and `..` from
the values of the query, and nothing looks at their lengths; `clean_pathname` has seen the path of
the URI only. So it depends on the values: written behind the mount point they must fit, and
whatever they climb out of they must name again.
-/
namespace BoaIpcam.Sd

open Directories

/-! ## Path names -/

/-- A path name with a slash in it. -/
theorem steps_slash (left right : List UInt8) :
    steps (left ++ 47 :: right) = steps left ++ steps right := by
  rw [steps, List.splitOn_append_cons_self, List.map_append]
  rfl

/-- A path name goes on behind a slash. -/
theorem location_slash (left right : List UInt8) :
    location (left ++ 47 :: right) = walk (location left) (steps right) := by
  rw [location, steps_slash, walk_append]
  rfl

/-- A name without a slash is one step. -/
theorem steps_plain {name : List UInt8} (plain : 47 ∉ name) : steps name = [toStep name] := by
  rw [steps, List.splitOn_eq_singleton plain]
  rfl

/-- The step of a name is down to that name. -/
theorem toStep_down {component name : List UInt8} (step : toStep component = .down name) :
    component = name := by
  unfold toStep at step
  split at step
  · cases step
  split at step
  · cases step
  · exact Step.down.inj step

/-- The names of a location have no slash, and are steps down. -/
theorem location_names (path : List UInt8) :
    ∀ name ∈ location path, 47 ∉ name ∧ toStep name = .down name := by
  apply forall_mem_walk
  · simp
  · intro name member
    obtain ⟨component, part, step⟩ := List.mem_map.mp member
    have same := toStep_down step
    rw [same] at part step
    exact ⟨fun slash => (Splits.mem_splitOn part 47 slash).2 rfl, step⟩

/-- `getcwd` denotes the directory it was asked for. -/
theorem location_workDir {path : List UInt8} (inside : location path ≠ []) :
    location (workDir path) = location path := by
  have names := location_names path
  have parts : ([47].intercalate (location path)).splitOn 47 = location path :=
    List.splitOn_intercalate 47 (fun name member => (names name member).1) inside
  have down : steps ([47].intercalate (location path)) = (location path).map .down := by
    rw [steps, parts]
    exact List.map_congr_left fun name member => (names name member).2
  have absolute : workDir path = [] ++ 47 :: [47].intercalate (location path) := rfl
  rw [absolute, location_slash, down, walk_down]
  rfl

/-! ## The directory of the card -/

/-- The mount point is not the root. -/
theorem mount_ne_nil : mount ≠ [] := by decide

/-- A path name on the card is not the root. -/
theorem Confined.ne_nil {path : List UInt8} (confined : Confined path) : location path ≠ [] := by
  intro empty
  rw [Confined, empty] at confined
  exact mount_ne_nil (List.prefix_nil.mp confined)

/-- An entry of a directory on the card is on the card, unless it is the parent of the mount
point. -/
theorem entry_confined_iff {path name : List UInt8} (confined : Confined path) (plain : 47 ∉ name) :
    Confined (path ++ 47 :: name) ↔ (name = ascii ".." → location path ≠ mount) := by
  have entry : location (path ++ 47 :: name) = enter (location path) (toStep name) := by
    rw [location_slash, steps_plain plain]
    rfl
  rw [Confined, entry]
  by_cases parent : name = ascii ".."
  · have up : toStep name = .up := by
      rw [parent]
      decide
    rw [up]
    simp only [parent, forall_const]
    exact prefix_dropLast_iff confined mount_ne_nil
  · simp only [parent, false_implies, iff_true]
    unfold toStep
    split
    · exact confined
    · exact List.IsPrefix.trans confined (List.prefix_append _ _)

/-- The name of a folder in the list has no slash and is not the parent. -/
theorem DirEntry.record_plain {entry : DirEntry} (folder : entry.Folder) (plain : 47 ∉ entry.name) :
    47 ∉ entry.record ∧ entry.record ≠ ascii ".." ∧ entry.record.length ≤ 51 := by
  unfold DirEntry.record
  split
  · rename_i short
    refine ⟨plain, fun same => ?_, by omega⟩
    apply folder.2
    rw [same]
    decide
  · rename_i long
    refine ⟨?_, fun same => ?_, ?_⟩
    · intro member
      rcases List.mem_append.mp member with inside | last
      · exact plain (List.mem_of_mem_take inside)
      · simp at last
    · have lengths := congrArg List.length same
      rw [List.length_append, List.length_take, List.length_singleton] at lengths
      have two : (ascii "..").length = 2 := by decide
      omega
    · rw [List.length_append, List.length_take, List.length_singleton]
      omega

/-! ## Lists of events -/

/-- Nothing done is safe. -/
@[simp] theorem contained_nil : Contained [] := by
  intro event member
  cases member

/-- A text is built first. -/
@[simp] theorem contained_build {text : List UInt8} {events : List Event} :
    Contained (.build text :: events) ↔ text.length < 256 ∧ Contained events :=
  List.forall_mem_cons

/-- A path name is handed over first. -/
@[simp] theorem contained_pass {path : List UInt8} {events : List Event} :
    Contained (.pass path :: events) ↔ Confined path ∧ Contained events :=
  List.forall_mem_cons

/-- Two parts of a handler. -/
@[simp] theorem contained_append {first second : List Event} :
    Contained (first ++ second) ↔ Contained first ∧ Contained second :=
  List.forall_mem_append

/-- A part that is done on a condition. -/
@[simp] theorem contained_ite {p : Prop} [Decidable p] {events : List Event} :
    Contained (if p then events else []) ↔ (p → Contained events) := by
  split
  · rename_i holds
    exact ⟨fun safe _ => safe, fun safe => safe holds⟩
  · rename_i fails
    exact iff_of_true contained_nil fun holds => absurd holds fails

/-! ## The lists of directories -/

/-- What `getsdlist` does with a folder is safe. -/
theorem folder_contained {path : List UInt8} {entry : DirEntry} (confined : Confined path)
    (short : (workDir path).length < bufLen) (folder : entry.Folder) (plain : 47 ∉ entry.name) :
    Contained [.build (workDir path ++ 47 :: entry.record),
      .pass (workDir path ++ 47 :: entry.record)] := by
  obtain ⟨record, other, size⟩ := entry.record_plain folder plain
  have here : location (workDir path) = location path := location_workDir confined.ne_nil
  have cwd : Confined (workDir path) := by
    rw [Confined, here]
    exact confined
  have fits : (workDir path ++ 47 :: entry.record).length < 256 := by
    have limit : bufLen = 64 := rfl
    rw [List.length_append, List.length_cons]
    omega
  have below : Confined (workDir path ++ 47 :: entry.record) :=
    (entry_confined_iff cwd record).mpr fun parent => absurd parent other
  exact contained_build.mpr ⟨fits, contained_pass.mpr ⟨below, contained_nil⟩⟩

/-- The list of a directory is safe exactly when its path name fits and denotes a directory of the
card, and, if that is the mount point, the parent is not listed. -/
theorem getsdlist_contained_iff (host : Host) (path : List UInt8) :
    Contained (getsdlist host path) ↔ path.length < 256 ∧
      (host.listMemory = true → Confined path ∧ (host.stat path = true →
        ∀ entry ∈ host.readdir path, entry.name = ascii ".." → location path ≠ mount)) := by
  simp only [getsdlist, contained_build, contained_ite, contained_pass, contained_append]
  constructor
  · rintro ⟨fits, safe⟩
    refine ⟨fits, fun memory => ⟨(safe memory).1, fun found entry member => ?_⟩⟩
    obtain ⟨⟨confined, entries⟩, -⟩ := (safe memory).2 found
    have passed := entries (.pass (path ++ 47 :: entry.name)) (List.mem_map_of_mem member)
    exact (entry_confined_iff confined (host.plain path entry member)).mp passed
  · rintro ⟨fits, safe⟩
    refine ⟨fits, fun memory => ?_⟩
    obtain ⟨confined, parent⟩ := safe memory
    refine ⟨confined, fun found => ⟨⟨confined, ?_⟩, fun short => ⟨?_, ?_⟩⟩⟩
    · intro event member
      obtain ⟨entry, listed, rfl⟩ := List.mem_map.mp member
      exact (entry_confined_iff confined (host.plain path entry listed)).mpr
        (parent found entry listed)
    · have limit : bufLen = 64 := rfl
      omega
    · intro event member
      obtain ⟨entry, listed, done⟩ := List.mem_flatMap.mp member
      obtain ⟨listed, folder⟩ := List.mem_filter.mp listed
      exact folder_contained confined short (of_decide_eq_true folder)
        (host.plain path entry listed) event done

/-- The directory that the handlers list first. -/
theorem location_root : location (ascii "/mnt/mmc/") = mount := by decide

/-- The mount point is listed without its parent, if it is listed. -/
def Host.ListsCard (host : Host) : Prop :=
  host.listMemory = true → host.stat (ascii "/mnt/mmc/") = true →
    ∀ entry ∈ host.readdir (ascii "/mnt/mmc/"), entry.name ≠ ascii ".."

/-- The list of the mount point. -/
theorem root_contained_iff (host : Host) :
    Contained (getsdlist host (ascii "/mnt/mmc/")) ↔ host.ListsCard := by
  have confined : Confined (ascii "/mnt/mmc/") := by decide
  have fits : (ascii "/mnt/mmc/").length < 256 := by decide
  rw [getsdlist_contained_iff, location_root]
  simp only [fits, confined, true_and, ne_eq, not_true, imp_false, Host.ListsCard]

/-! ## The values -/

/-- What the values of two arguments climb out of they name again, when they are written behind
the mount point with a slash before each of them. -/
def StaysBelow (value value' : List UInt8) : Prop :=
  (reduce (steps value ++ steps value')).Returns mount

/-- The values end where they start. -/
def EndsAtMount (value value' : List UInt8) : Prop :=
  (reduce (steps value ++ steps value')).names =
    mount.drop (mount.length - (reduce (steps value ++ steps value')).climbs)

/-- A value that is written behind the mount point without a slash. A first component makes another
name of `mmc`, so that the others have to climb out of it. -/
def StaysBehind (value : List UInt8) : Prop :=
  (reduce ((value.splitOn 47).tail.map toStep)).Returns mount ∧
    ((value.splitOn 47).head? = some [] ∨
      0 < (reduce ((value.splitOn 47).tail.map toStep)).climbs)

/-- Two values are a walk from the mount point. -/
theorem location_below (value value' : List UInt8) :
    location (sdMountPath ++ 47 :: value ++ 47 :: value') =
      (reduce (steps value ++ steps value')).follow mount := by
  have here : location sdMountPath = mount := by decide
  have shape : sdMountPath ++ 47 :: value ++ 47 :: value' =
      sdMountPath ++ 47 :: (value ++ 47 :: value') := by
    simp
  rw [shape, location_slash, here, steps_slash, walk_eq_follow]

/-- The path name of two values is confined exactly when they stay below the mount point. -/
theorem confined_below_iff (value value' : List UInt8) :
    Confined (sdMountPath ++ 47 :: value ++ 47 :: value') ↔ StaysBelow value value' := by
  rw [Confined, location_below]
  exact Reduced.prefix_follow_iff _ _

/-- The path name of two values is that of the mount point exactly when they end there. -/
theorem location_below_eq_iff (value value' : List UInt8) :
    location (sdMountPath ++ 47 :: value ++ 47 :: value') = mount ↔ EndsAtMount value value' := by
  rw [location_below]
  exact Reduced.follow_eq_iff _ _

/-- The first component of a value becomes part of the name of the mount point. -/
theorem location_behind {value first : List UInt8} {rest : List (List UInt8)}
    (parts : value.splitOn 47 = first :: rest) :
    location (sdMountPath ++ value) =
      (reduce (rest.map toStep)).follow ([ascii "mnt"] ++ [ascii "mmc" ++ first]) := by
  have shape : sdMountPath ++ value = ascii "/mnt" ++ 47 :: (ascii "mmc" ++ value) := rfl
  have parent : location (ascii "/mnt") = [ascii "mnt"] := by decide
  have name : toStep (ascii "mmc" ++ first) = .down (ascii "mmc" ++ first) := by
    simp [toStep, ascii]
  have stepped : steps (ascii "mmc" ++ value) =
      .down (ascii "mmc" ++ first) :: rest.map toStep := by
    rw [steps, Splits.splitOn_append_of_not_mem (by decide) parts, List.map_cons, name]
  rw [shape, location_slash, parent, stepped, ← walk_eq_follow]
  rfl

/-- The path name of one value is confined exactly when it stays behind the mount point. -/
theorem confined_behind_iff (value : List UInt8) :
    Confined (sdMountPath ++ value) ↔ StaysBehind value := by
  cases parts : value.splitOn 47 with
  | nil => exact absurd parts (List.splitOn_ne_nil 47 value)
  | cons first rest =>
    rw [Confined, StaysBehind, parts, location_behind parts, List.tail_cons, List.head?_cons]
    by_cases glued : first = []
    · rw [glued, List.append_nil]
      have names : mount = [ascii "mnt"] ++ [ascii "mmc"] := rfl
      rw [names, Reduced.prefix_follow_iff]
      simp
    · have other : ascii "mmc" ++ first ≠ ascii "mmc" := by simpa using glued
      have names : mount = [ascii "mnt"] ++ [ascii "mmc"] := rfl
      rw [names, Reduced.sibling_follow_iff _ _ other]
      simp [glued, and_comm]

/-! ## The requests -/

/-- A request for a file of the card. -/
inductive SdRequest where
  | format (args : List (List UInt8 × List UInt8))
  | delete (args : List (List UInt8 × List UInt8))
  | download (args : List (List UInt8 × List UInt8))
  | sddownload (args : List (List UInt8 × List UInt8))
  | list (args : List (List UInt8 × List UInt8))
  | sddel (value : List UInt8)

namespace SdRequest

/-- What the handler of a request does. -/
def events (host : Host) : SdRequest → List Event
  | .format args => uriSdcardFormat host args
  | .delete args => uriSdcardDelete host args
  | .download args => uriSdcardDownload host args
  | .sddownload args => uriSddownload host args
  | .list args => uriSdcardList host args
  | .sddel value => setSddel host value

/-- The arguments delete a file only by a path name that fits and stays below the mount point. -/
def DeletesBelow (args : List (List UInt8 × List UInt8)) : Prop :=
  ∀ value value' rest, args = (ascii "type", value) :: (ascii "file", value') :: rest →
    value.length + value'.length + 10 < 256 ∧ StaysBelow value value'

/-- The arguments download a file only by a path name that fits and stays below the mount
point. -/
def DownloadsBelow (host : Host) (args : List (List UInt8 × List UInt8)) : Prop :=
  ∀ value rest, args = (ascii "type", value) :: rest → value.length + 1 < 256 ∧
    ∀ value' rest', rest = (ascii "file", value') :: rest' →
      value.length + value'.length + 2 < 256 ∧ host.ListsCard ∧
        (host.exportMemory = true → value.length + value'.length + 10 < 256 ∧
          (host.pathMemory = true → StaysBelow value value'))

/-- The same for the page that takes the whole path name from its argument. -/
def DownloadsBehind (host : Host) (args : List (List UInt8 × List UInt8)) : Prop :=
  ∀ value rest, args = (ascii "file", value) :: rest → value.length < 256 ∧ host.ListsCard ∧
    (47 ∈ value → host.exportMemory = true → value.length + 8 < 256 ∧
      (host.pathMemory = true → StaysBehind value))

/-- The arguments list a directory below the mount point, and the mount point itself only without
its parent. -/
def ListsBelow (host : Host) (args : List (List UInt8 × List UInt8)) : Prop :=
  ∀ name value name' value' third fourth,
    args = [(name, value), (name', value'), third, fourth] →
    value.length + value'.length + 10 < 256 ∧ StaysBelow value value' ∧
      (host.stat (sdMountPath ++ 47 :: value ++ 47 :: value') = true → host.listMemory = true →
        ∀ entry ∈ host.readdir (sdMountPath ++ 47 :: value ++ 47 :: value'),
          entry.name = ascii ".." → ¬EndsAtMount value value')

/-- The requests whose handlers keep to the card. -/
def Keeps (host : Host) : SdRequest → Prop
  | .format args => args ≠ [] → host.ListsCard ∧ DeletesBelow args
  | .delete args => args ≠ [] → host.ListsCard ∧ DeletesBelow args
  | .download args => DownloadsBelow host args
  | .sddownload args => DownloadsBehind host args
  | .list args => ListsBelow host args
  | .sddel value => value.length < 248 ∧ StaysBehind value

end SdRequest

/-- What is built behind the mount point from two values. -/
theorem length_below (value value' : List UInt8) :
    (sdMountPath ++ 47 :: value ++ 47 :: value').length = value.length + value'.length + 10 := by
  have root : sdMountPath.length = 8 := by decide
  simp only [List.length_append, List.length_cons, root]
  omega

/-- What is built behind the mount point from one value. -/
theorem length_behind (value : List UInt8) : (sdMountPath ++ value).length = value.length + 8 := by
  have root : sdMountPath.length = 8 := by decide
  rw [List.length_append, root, Nat.add_comm]

/-- A condition on the arguments whose first one has a given name. -/
theorem forall_named_iff {key name value : List UInt8} {rest : List (List UInt8 × List UInt8)}
    {p : List UInt8 → List (List UInt8 × List UInt8) → Prop} :
    (∀ value' rest', (name, value) :: rest = (key, value') :: rest' → p value' rest') ↔
      (name = key → p value rest) := by
  constructor
  · intro all same
    exact all value rest (by rw [same])
  · rintro holds _ _ ⟨⟩
    exact holds rfl

/-- What the deletions do with the value of `type`. -/
theorem deleteTyped_contained_iff (value : List UInt8) (rest : List (List UInt8 × List UInt8)) :
    Contained (deleteTyped value rest) ↔
      SdRequest.DeletesBelow ((ascii "type", value) :: rest) := by
  unfold SdRequest.DeletesBelow
  cases rest with
  | nil => simp [deleteTyped]
  | cons arg rest =>
    obtain ⟨name', value'⟩ := arg
    have shape : ascii "/mnt/mmc/" ++ value ++ 47 :: value' =
        sdMountPath ++ 47 :: value ++ 47 :: value' := rfl
    simp only [deleteTyped, contained_ite, contained_build, contained_pass, contained_nil, shape,
      length_below, confined_below_iff, and_true]
    constructor
    · rintro safe _ _ _ ⟨⟩
      exact safe rfl
    · intro safe file
      exact safe value value' rest (by rw [file])

/-- What `sdfile_download` does. -/
theorem sdfileDownload_contained_iff (host : Host) (path : List UInt8) :
    Contained (sdfileDownload host path) ↔ host.ListsCard ∧
      (47 ∈ path → host.exportMemory = true → path.length + 8 < 256 ∧
        (host.pathMemory = true → Confined (sdMountPath ++ path))) := by
  have shape : ascii "/mnt/mmc" = sdMountPath := rfl
  simp only [sdfileDownload, contained_append, contained_ite, contained_build, contained_pass,
    contained_nil, root_contained_iff, length_behind, and_imp, and_true, shape]

/-- Only the value of `type` deletes a file. -/
theorem deletesBelow_of_ne {name value : List UInt8} {rest : List (List UInt8 × List UInt8)}
    (other : name ≠ ascii "type") : SdRequest.DeletesBelow ((name, value) :: rest) := by
  rintro _ _ _ ⟨⟩
  exact absurd rfl other

/-- `uri_sdcard_delete` keeps to the card. -/
theorem uriSdcardDelete_contained_iff (host : Host) (args : List (List UInt8 × List UInt8)) :
    Contained (uriSdcardDelete host args) ↔
      (args ≠ [] → host.ListsCard ∧ SdRequest.DeletesBelow args) := by
  cases args with
  | nil => simp [uriSdcardDelete]
  | cons arg rest =>
    obtain ⟨name, value⟩ := arg
    simp only [uriSdcardDelete, contained_append, root_contained_iff, contained_ite, ne_eq,
      List.cons_ne_nil, not_false_eq_true, forall_const, deleteTyped_contained_iff]
    apply and_congr_right
    intro _
    by_cases type : name = ascii "type"
    · simp only [type, forall_const]
    · exact iff_of_true (fun same => absurd same type) (deletesBelow_of_ne type)

/-- `uri_sdcard_format` hands over what `uri_sdcard_delete` does. -/
theorem uriSdcardFormat_eq (host : Host) (args : List (List UInt8 × List UInt8)) :
    uriSdcardFormat host args = uriSdcardDelete host args := by
  cases args with
  | nil => rfl
  | cons arg rest =>
    obtain ⟨name, value⟩ := arg
    simp only [uriSdcardFormat, uriSdcardDelete]
    by_cases format : name = ascii "format"
    · have other : ascii "format" ≠ ascii "type" := by decide
      rw [if_pos format, format, if_neg other]
    · rw [if_neg format]

/-- What `uri_sdcard_download` does behind the value of `type`. -/
theorem downloadTyped_contained_iff (host : Host) (value : List UInt8)
    (rest : List (List UInt8 × List UInt8)) :
    Contained (downloadTyped host value rest) ↔
      ∀ value' rest', rest = (ascii "file", value') :: rest' →
        value.length + value'.length + 2 < 256 ∧ host.ListsCard ∧
          (host.exportMemory = true → value.length + value'.length + 10 < 256 ∧
            (host.pathMemory = true → StaysBelow value value')) := by
  cases rest with
  | nil => simp [downloadTyped]
  | cons arg rest =>
    obtain ⟨name', value'⟩ := arg
    have size : (47 :: value ++ 47 :: value').length = value.length + value'.length + 2 := by
      simp only [List.length_append, List.length_cons]
      omega
    have slash : (47 : UInt8) ∈ 47 :: value ++ 47 :: value' := List.mem_cons_self
    have shape : sdMountPath ++ (47 :: value ++ 47 :: value') =
        sdMountPath ++ 47 :: value ++ 47 :: value' := (List.append_assoc _ _ _).symm
    simp only [downloadTyped, contained_ite, contained_build, sdfileDownload_contained_iff, size,
      slash, shape, confined_below_iff, forall_const]
    rw [forall_named_iff]

/-- `uri_sdcard_download` keeps to the card. -/
theorem uriSdcardDownload_contained_iff (host : Host) (args : List (List UInt8 × List UInt8)) :
    Contained (uriSdcardDownload host args) ↔ SdRequest.DownloadsBelow host args := by
  unfold SdRequest.DownloadsBelow
  cases args with
  | nil => simp [uriSdcardDownload]
  | cons arg rest =>
    obtain ⟨name, value⟩ := arg
    simp only [uriSdcardDownload, contained_ite, contained_build, List.length_cons,
      downloadTyped_contained_iff]
    rw [forall_named_iff]

/-- `uri_sddownload` keeps to the card. -/
theorem uriSddownload_contained_iff (host : Host) (args : List (List UInt8 × List UInt8)) :
    Contained (uriSddownload host args) ↔ SdRequest.DownloadsBehind host args := by
  unfold SdRequest.DownloadsBehind
  cases args with
  | nil => simp [uriSddownload]
  | cons arg rest =>
    obtain ⟨name, value⟩ := arg
    simp only [uriSddownload, contained_ite, contained_build, sdfileDownload_contained_iff,
      confined_behind_iff]
    rw [forall_named_iff]

/-- `uri_sdcard_list` keeps to the card. -/
theorem uriSdcardList_contained_iff (host : Host) (args : List (List UInt8 × List UInt8)) :
    Contained (uriSdcardList host args) ↔ SdRequest.ListsBelow host args := by
  unfold uriSdcardList SdRequest.ListsBelow
  split
  · rename_i name value name' value' third fourth
    simp only [contained_build, contained_pass, contained_ite, getsdlist_contained_iff,
      length_below, confined_below_iff, ne_eq, location_below_eq_iff]
    constructor
    · rintro ⟨fits, below, lists⟩ _ _ _ _ _ _ ⟨⟩
      refine ⟨fits, below, fun found memory => ?_⟩
      exact ((lists found).2 memory).2 found
    · intro safe
      obtain ⟨fits, below, lists⟩ := safe name value name' value' third fourth rfl
      refine ⟨fits, below, fun found => ⟨fits, fun memory => ⟨below, fun _ => ?_⟩⟩⟩
      exact lists found memory
  · rename_i other
    refine iff_of_true contained_nil ?_
    intro name value name' value' third fourth shape
    exact absurd shape (other name value name' value' third fourth)

/-- `set_sddel` keeps to the card. -/
theorem setSddel_contained_iff (host : Host) (value : List UInt8) :
    Contained (setSddel host value) ↔ value.length < 248 ∧ StaysBehind value := by
  simp only [setSddel, contained_build, contained_pass, contained_ite, contained_nil,
    length_behind, confined_behind_iff, List.length_take]
  by_cases short : value.length < 248
  · have whole : value.take 255 = value := List.take_of_length_le (by omega)
    rw [whole]
    constructor
    · rintro ⟨-, behind, -⟩
      exact ⟨short, behind⟩
    · rintro ⟨-, behind⟩
      exact ⟨by omega, behind, fun _ => ⟨behind, trivial⟩⟩
  · constructor
    · rintro ⟨fits, -⟩
      omega
    · rintro ⟨fits, -⟩
      omega

/-- Whatever the file system holds, the handler of a request for the card builds no text that
overruns its buffer and hands over no path name that leads away from the card exactly when the
values of the request fit and name again what they climb out of, and the mount point is not listed
together with its parent. -/
theorem sdRequest_contained_iff (host : Host) (request : SdRequest) :
    Contained (request.events host) ↔ request.Keeps host := by
  cases request with
  | format args =>
    rw [SdRequest.events, uriSdcardFormat_eq]
    exact uriSdcardDelete_contained_iff host args
  | delete args => exact uriSdcardDelete_contained_iff host args
  | download args => exact uriSdcardDownload_contained_iff host args
  | sddownload args => exact uriSddownload_contained_iff host args
  | list args => exact uriSdcardList_contained_iff host args
  | sddel value => exact setSddel_contained_iff host value

/-- An empty card, and memory for everything. -/
def emptyCard : Host where
  stat := fun path => path = ascii "/mnt/mmc/"
  readdir := fun _ => []
  listMemory := true
  exportMemory := true
  pathMemory := true
  plain := by simp

/-- A deletion climbs out of the card, a download behind the mount point does so too, and a long
value overruns the buffer of `set_sddel`. -/
theorem sdRequests_leave_card :
    let delete := SdRequest.delete
      [(ascii "type", ascii ".."), (ascii "file", ascii "../etc/passwd")]
    let download := SdRequest.sddownload [(ascii "file", ascii "x/../../etc/passwd")]
    .pass (ascii "/mnt/mmc/../../etc/passwd") ∈ delete.events emptyCard ∧
      location (ascii "/mnt/mmc/../../etc/passwd") = [ascii "etc", ascii "passwd"] ∧
      .pass (ascii "/mnt/mmcx/../../etc/passwd") ∈ download.events emptyCard ∧
      ¬Contained (delete.events emptyCard) ∧ ¬Contained (download.events emptyCard) ∧
      ¬Contained ((SdRequest.sddel (List.replicate 248 97)).events emptyCard) := by
  have away : ¬Confined (ascii "/mnt/mmc/../../etc/passwd") := by decide
  have away' : ¬Confined (ascii "/mnt/mmcx/../../etc/passwd") := by decide
  have deleted : Event.pass (ascii "/mnt/mmc/../../etc/passwd") ∈ (SdRequest.delete
      [(ascii "type", ascii ".."), (ascii "file", ascii "../etc/passwd")]).events emptyCard := by
    decide
  have downloaded : Event.pass (ascii "/mnt/mmcx/../../etc/passwd") ∈ (SdRequest.sddownload
      [(ascii "file", ascii "x/../../etc/passwd")]).events emptyCard := by
    decide
  refine ⟨deleted, by decide, downloaded, fun safe => away (safe _ deleted),
    fun safe => away' (safe _ downloaded), fun safe => ?_⟩
  have fits := ((setSddel_contained_iff emptyCard _).mp safe).1
  rw [List.length_replicate] at fits
  omega

end BoaIpcam.Sd
