import BoaIpcam.CString
import BoaIpcam.Lib.Directories

/-!
# The handlers of the memory card

The pages of `request.c` and the command of `appro_api.c` that read and delete files of the card.
They put the values of the query behind the path of the mount point, in buffers of 256 bytes, and
hand the result to `stat`, `opendir` and `remove`, or keep it in `req->pathname`. A handler is the
list of the texts it builds and the path names it hands over, in their order. The arguments are
those that `uri_decoding` has left in `cmd_arg`; without a query string there are none.
-/
namespace BoaIpcam.Sd

open Directories

/-! ## Path names -/

/-- A component of a path name. -/
def toStep (component : List UInt8) : Step (List UInt8) :=
  if component = [] ∨ component = ascii "." then .stay
  else if component = ascii ".." then .up
  else .down component

/-- The steps of a path name. -/
def steps (path : List UInt8) : List (Step (List UInt8)) := (path.splitOn 47).map toStep

/-- The directory or file that an absolute path name denotes. -/
def location (path : List UInt8) : List (List UInt8) := walk [] (steps path)

/-- `SD_MOUNT_PATH`. -/
def sdMountPath : List UInt8 := ascii "/mnt/mmc"

/-- The mount point of the card. -/
def mount : List (List UInt8) := [ascii "mnt", ascii "mmc"]

/-- The path name denotes the mount point or something below it. -/
def Confined (path : List UInt8) : Prop := mount <+: location path

instance (path : List UInt8) : Decidable (Confined path) := inferInstanceAs (Decidable (_ <+: _))

/-! ## What the handlers meet -/

/-- An entry that `readdir` returns, and what `stat` says of it: whether it is a directory, none
when it fails. -/
structure DirEntry where
  /-- The name. -/
  name : List UInt8
  /-- Whether it is a directory. -/
  directory : Option Bool
deriving DecidableEq, Repr

/-- The file system and the memory. A name in a directory has no slash. -/
structure Host where
  /-- `stat` succeeds on a path name. -/
  stat : List UInt8 → Bool
  /-- What `readdir` returns for a path name that `opendir` has opened, nothing when it is no
  directory. -/
  readdir : List UInt8 → List DirEntry
  /-- The two lists of `getsdlist` can be allocated. -/
  listMemory : Bool
  /-- `req->export_file` can be allocated. -/
  exportMemory : Bool
  /-- `req->pathname` can be allocated. -/
  pathMemory : Bool
  /-- A name has no slash. -/
  plain : ∀ path, ∀ entry ∈ readdir path, 47 ∉ entry.name

/-- What a handler does. -/
inductive Event where
  /-- A text stands in a buffer of 256 bytes. -/
  | build (text : List UInt8)
  /-- A path name is handed to the file system. -/
  | pass (path : List UInt8)
deriving DecidableEq, Repr

/-- A text and its terminator fit the buffer; a path name stays at or below the mount point. -/
def Event.Safe : Event → Prop
  | .build text => text.length < 256
  | .pass path => Confined path

/-- Everything a handler does is safe. -/
def Contained (events : List Event) : Prop := ∀ event ∈ events, event.Safe

/-! ## The handlers -/

/-- `getcwd` after `chdir`. -/
def workDir (path : List UInt8) : List UInt8 := 47 :: [47].intercalate (location path)

/-- `BUF_LEN`: `GetWorkDir` exits when the directory does not fit. -/
def bufLen : Nat := 64

/-- `getsdlist` counts the entries of a directory whose name does not start with a dot. -/
def DirEntry.Folder (entry : DirEntry) : Prop :=
  entry.directory = some true ∧ entry.name.head? ≠ some 46

instance (entry : DirEntry) : Decidable entry.Folder := inferInstanceAs (Decidable (_ ∧ _))

/-- The text in the field `name` of a `FILELIST` of a directory. `strncpy` does not terminate a
name that fills the field; the next field is `filetype`, which is one, and the next is zero. -/
def DirEntry.record (entry : DirEntry) : List UInt8 :=
  if entry.name.length < 50 then entry.name else entry.name.take 50 ++ [1]

/-- `getsdlist`. The entries are looked up from inside the directory. -/
def getsdlist (host : Host) (path : List UInt8) : List Event :=
  .build path ::
    if host.listMemory then
      .pass path ::
        if host.stat path then
          .pass path ::
            ((host.readdir path).map fun entry => .pass (path ++ 47 :: entry.name)) ++
            if (workDir path).length < bufLen then
              .build (workDir path) ::
                ((host.readdir path).filter fun entry => entry.Folder).flatMap fun entry =>
                  [.build (workDir path ++ 47 :: entry.record),
                    .pass (workDir path ++ 47 :: entry.record)]
            else []
        else []
    else []

/-- `sdfile_download`. Without a slash there is no file name. -/
def sdfileDownload (host : Host) (path : List UInt8) : List Event :=
  getsdlist host (ascii "/mnt/mmc/") ++
    if 47 ∈ path ∧ host.exportMemory = true then
      .build (ascii "/mnt/mmc" ++ path) ::
        if host.pathMemory then [.pass (ascii "/mnt/mmc" ++ path)] else []
    else []

/-- The part that `uri_sdcard_format` and `uri_sdcard_delete` share, for the value of `type` and
the other arguments. Without another argument its name is read through a null pointer. -/
def deleteTyped (value : List UInt8) (rest : List (List UInt8 × List UInt8)) : List Event :=
  match rest with
  | [] => []
  | (name', value') :: _ =>
    if name' = ascii "file" then
      [.build (ascii "/mnt/mmc/" ++ value ++ 47 :: value'),
        .pass (ascii "/mnt/mmc/" ++ value ++ 47 :: value')]
    else []

/-- `uri_sdcard_format`. The format itself is left to a program of its own. -/
def uriSdcardFormat (host : Host) (args : List (List UInt8 × List UInt8)) : List Event :=
  match args with
  | [] => []
  | (name, value) :: rest =>
    getsdlist host (ascii "/mnt/mmc/") ++
      if name = ascii "format" then []
      else if name = ascii "type" then deleteTyped value rest
      else []

/-- `uri_sdcard_delete`. -/
def uriSdcardDelete (host : Host) (args : List (List UInt8 × List UInt8)) : List Event :=
  match args with
  | [] => []
  | (name, value) :: rest =>
    getsdlist host (ascii "/mnt/mmc/") ++
      if name = ascii "type" then deleteTyped value rest else []

/-- The part of `uri_sdcard_download` behind the value of `type`. Without another argument its
name is read through a null pointer. -/
def downloadTyped (host : Host) (value : List UInt8) (rest : List (List UInt8 × List UInt8)) :
    List Event :=
  match rest with
  | [] => []
  | (name', value') :: _ =>
    if name' = ascii "file" then
      .build (47 :: value ++ 47 :: value') :: sdfileDownload host (47 :: value ++ 47 :: value')
    else []

/-- `uri_sdcard_download`. -/
def uriSdcardDownload (host : Host) (args : List (List UInt8 × List UInt8)) : List Event :=
  match args with
  | [] => []
  | (name, value) :: rest =>
    if name = ascii "type" then .build (47 :: value) :: downloadTyped host value rest else []

/-- `uri_sddownload`. -/
def uriSddownload (host : Host) (args : List (List UInt8 × List UInt8)) : List Event :=
  match args with
  | [] => []
  | (name, value) :: _ =>
    if name = ascii "file" then .build value :: sdfileDownload host value else []

/-- `uri_sdcard_list`, for its four arguments; their names do not matter. -/
def uriSdcardList (host : Host) (args : List (List UInt8 × List UInt8)) : List Event :=
  match args with
  | [(_, value), (_, value'), _, _] =>
    let card := sdMountPath ++ 47 :: value ++ 47 :: value'
    .build card :: .pass card :: if host.stat card then getsdlist host card else []
  | _ => []

/-- `set_sddel`. Both calls of `strncat` are limited to one byte less than the buffer holds. -/
def setSddel (host : Host) (value : List UInt8) : List Event :=
  let indir := sdMountPath ++ value.take 255
  .build indir :: .pass indir :: if host.stat indir then [.pass indir] else []

end BoaIpcam.Sd
