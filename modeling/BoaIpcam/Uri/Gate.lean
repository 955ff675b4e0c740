import BoaIpcam.Numeral
import BoaIpcam.Session.System
import BoaIpcam.Uri.Reach

/-!
# Who may reach a file

`process_header_end` of `request.c` asks for a login when the path of the request is registered in
`HttpUri`, and compares the authority of the user with that of the entry. The file is then chosen
by `translate_uri`, `init_cgi` and `init_get`, which do not look at the table again. A file whose
own URI is registered is protected as that entry says exactly when no path that stands for the same
file, whatever its spelling, is registered less strictly or not at all.

The result of `auth_authorize` and what most handlers return are inputs. A POST has a body of the
length it says, and no request asks for a file only if it was modified.
-/
namespace BoaIpcam

/-- What becomes of a request: it is answered at once, its handler has dealt with it, a file is
executed, the contents of a file are sent (also those that `gunzip` makes of it), the listing
of a directory is sent, nothing, or the server writes outside an array or reads a null pointer. -/
inductive Fate where
  | refused (reply : Reply)
  | handled (entry : HttpUri)
  | executed (pathname : List UInt8)
  | served (pathname : List UInt8)
  | listed (pathname : List UInt8)
  | nothing
  | crashed
deriving DecidableEq, Repr

/-- The file that is executed or sent. -/
def Fate.file : Fate → Option (List UInt8)
  | .executed pathname => some pathname
  | .served pathname => some pathname
  | _ => none

/-- The results of `auth_authorize`. -/
inductive AuthCode where
  | ok
  | unauthorized
  | serviceUnavailable
  | badRequest
deriving DecidableEq, Repr

/-- What happens outside: `auth_authorize` returns a code and has written an authority into the
request, and the handler of the entry returns a number. -/
structure Visit where
  /-- What `auth_authorize` returns. -/
  code : AuthCode
  /-- The authority of the request then. -/
  authority : Nat
  /-- What a handler returns that sets no path name. -/
  ret : Int

namespace Site

/-! ## Files -/

/-- What `init_cgi` executes. A request that is no script is passed to the program that lists
directories or to `gunzip`. -/
def initCgi (target : Target) : Fate :=
  match target.pathname with
  | none => .nothing
  | some pathname =>
    if target.isCgi ≠ .no then .executed pathname
    else if pathname.getLast? = some 47 then .listed pathname
    else .served pathname

/-- The suffix of compressed files. -/
def gz : List UInt8 := ascii ".gz"

/-- The name of the index of a directory in the directory of `DirectoryCache`. -/
def cacheName (site : Site) (pathname : List UInt8) : List UInt8 :=
  ascii "dir." ++ intText (site.inode pathname).1 ++ 46 :: intText (site.inode pathname).2

/-- The index of a directory in the directory of `DirectoryCache`. -/
def cacheFile (site : Site) (cachedir pathname : List UInt8) : List UInt8 :=
  cachedir ++ 47 :: site.cacheName pathname

/-- `get_cachedir_file`, which copies `directory_index` without a test. -/
def getCachedirFile (site : Site) (cachedir pathname : List UInt8) : Fate :=
  match site.cacheError pathname with
  | some reply => .refused reply
  | none =>
    if site.directoryIndex = none then .crashed else .served (site.cacheFile cachedir pathname)

/-- The part of `get_dir` for a directory without an index. -/
def getListing (site : Site) (pathname : List UInt8) : Fate :=
  if site.dirmaker then .listed pathname
  else
    match site.cachedir with
    | some cachedir => site.getCachedirFile cachedir pathname
    | none => .refused .forbidden

/-- `get_dir`. -/
def getDir (site : Site) (pathname : List UInt8) : Fate :=
  match site.directoryIndex with
  | none => site.getListing pathname
  | some index =>
    match site.openFile (pathname ++ index) with
    | .ok _ => .served (pathname ++ index)
    | .error .access => .refused .forbidden
    | .error .other => .refused .notFound
    | .error .noEntry =>
      match site.openFile (pathname ++ index ++ gz) with
      | .ok _ => .served (pathname ++ index ++ gz)
      | .error _ => site.getListing pathname

/-- `init_get`. -/
def initGet (site : Site) (target : Target) : Fate :=
  match target.pathname with
  | none => .refused .badRequest
  | some pathname =>
    match site.openFile pathname with
    | .error .noEntry =>
      match site.openFile (pathname ++ gz) with
      | .ok _ => .served (pathname ++ gz)
      | .error _ => .refused .notFound
    | .error .access => .refused .forbidden
    | .error .other => .refused .badRequest
    | .ok true => if pathname.getLast? ≠ some 47 then .refused .movedPerm else site.getDir pathname
    | .ok false => .served pathname

/-- The end of `process_header_end`. -/
def dispatch (site : Site) (req : UriRequest) (target : Target) : Fate :=
  if req.method = .post ∨ target.isCgi ≠ .no then initCgi target else site.initGet target

/-! ## Handlers that set the path name -/

/-- What such a handler comes to: it answers the request, or goes on with a path name, or writes
behind its array `workdir[256]` or reads a null pointer. -/
inductive SetterResult where
  | answered
  | opens (pathname : List UInt8)
  | crashes
deriving DecidableEq, Repr

/-- `sdfile_download`. -/
def sdfileDownload (path : List UInt8) : SetterResult :=
  if 256 ≤ path.length then .crashes
  else if 47 ∉ path then .answered
  else if 256 ≤ (ascii "/mnt/mmc").length + path.length then .crashes
  else .opens (ascii "/mnt/mmc" ++ path)

/-- `uri_export_conf`, `uri_sdcard_download` and `uri_sddownload`. -/
def runSetter (site : Site) (req : UriRequest) : PathSetter → SetterResult
  | .exportConf => .opens site.sysEnvPath
  | .sdcardDownload =>
    match req.args with
    | (name, value) :: rest =>
      if name ≠ ascii "type" then .answered
      else if 256 ≤ 1 + value.length then .crashes
      else
        match rest with
        | (name, file) :: _ =>
          if name = ascii "file" then sdfileDownload (47 :: value ++ 47 :: file) else .answered
        | [] => .crashes
    | [] => .answered
  | .sddownload =>
    match req.args with
    | (name, value) :: _ => if name = ascii "file" then sdfileDownload value else .answered
    | [] => .answered

/-! ## The gate -/

/-- The path of a request, as the table and the file system see it. -/
def pathOf (req : UriRequest) : Option (List UInt8) :=
  (unescapeUri req.requestUri).map cleanPathname

/-- The request with that path. -/
def withPath (req : UriRequest) (uri : List UInt8) : UriRequest := { req with requestUri := uri }

/-- The part of `process_header_end` up to the login. -/
def resolve (site : Site) (req : UriRequest) : Except Reply Target :=
  match pathOf req with
  | none => .error .badRequest
  | some uri => site.translateUri (withPath req uri)

/-- The part of `process_header_end` behind the login, for a request with an entry. -/
def handle (site : Site) (req : UriRequest) (target : Target) (entry : HttpUri) (ret : Int) :
    Fate :=
  match site.pathSetter entry with
  | some setter =>
    match site.runSetter req setter with
    | .answered => .handled entry
    | .crashes => .crashed
    | .opens pathname => site.dispatch req { target with pathname := some pathname }
  | none => if entry.handler ∧ 0 ≤ ret then .handled entry else site.dispatch req target

/-- `process_header_end`, and the authority the request has then. -/
def processHeaderEnd (build : Build) (site : Site) (req : UriRequest) (visit : Visit) :
    Fate × Nat :=
  match site.resolve req with
  | .error reply => (.refused reply, build.none)
  | .ok target =>
    match target.entry with
    | none => (site.dispatch req target, build.none)
    | some entry =>
      if visit.code = .serviceUnavailable then (.refused .serviceUnavailable, visit.authority)
      else if visit.code = .badRequest then (.refused .badRequest, visit.authority)
      else if entry.authority < visit.authority then (.refused .unauthorized, visit.authority)
      else (site.handle req target entry visit.ret, visit.authority)

/-! ## What a path stands for, and what the table says of it -/

/-- What the table asks of those who come with a path: the authority of the entry that is found for
it, `AUTHORITY_NONE` when it is not registered. -/
def asks (build : Build) (site : Site) (uri : List UInt8) : Nat :=
  ((site.entryOf uri).map HttpUri.authority).getD build.none

/-- A path name leads to a file, which is executed or whose contents are sent. -/
inductive Sends (site : Site) (req : UriRequest) (pathname : List UInt8) :
    Bool → List UInt8 → Prop
  /-- A script. -/
  | runs : Sends site req pathname true pathname
  /-- A POST to a file. -/
  | posted (post : req.method = .post) (plain : pathname.getLast? ≠ some 47) :
      Sends site req pathname false pathname
  /-- A file that can be opened. -/
  | opened (get : req.method ≠ .post) (found : site.openFile pathname = .ok false) :
      Sends site req pathname false pathname
  /-- The compressed file, where there is no other. -/
  | compressed {dir : Bool} (get : req.method ≠ .post)
      (missing : site.openFile pathname = .error .noEntry)
      (found : site.openFile (pathname ++ gz) = .ok dir) :
      Sends site req pathname false (pathname ++ gz)
  /-- The index of a directory. -/
  | index {name : List UInt8} {dir : Bool} (get : req.method ≠ .post)
      (directory : site.openFile pathname = .ok true) (slash : pathname.getLast? = some 47)
      (configured : site.directoryIndex = some name)
      (found : site.openFile (pathname ++ name) = .ok dir) :
      Sends site req pathname false (pathname ++ name)
  /-- The compressed index. -/
  | compressedIndex {name : List UInt8} {dir : Bool} (get : req.method ≠ .post)
      (directory : site.openFile pathname = .ok true) (slash : pathname.getLast? = some 47)
      (configured : site.directoryIndex = some name)
      (missing : site.openFile (pathname ++ name) = .error .noEntry)
      (found : site.openFile (pathname ++ name ++ gz) = .ok dir) :
      Sends site req pathname false (pathname ++ name ++ gz)
  /-- The index that the server makes. -/
  | cached {name cachedir : List UInt8} {error : OpenError} (get : req.method ≠ .post)
      (directory : site.openFile pathname = .ok true) (slash : pathname.getLast? = some 47)
      (configured : site.directoryIndex = some name)
      (missing : site.openFile (pathname ++ name) = .error .noEntry)
      (missing' : site.openFile (pathname ++ name ++ gz) = .error error)
      (noMaker : site.dirmaker = false) (cache : site.cachedir = some cachedir)
      (made : site.cacheError pathname = none) :
      Sends site req pathname false (site.cacheFile cachedir pathname)

section Sending

variable {site : Site} {req : UriRequest} {target : Target} {pathname file : List UInt8}

/-- A file that cannot be opened is sent only when it is missing. -/
theorem Sends.missing {error : OpenError} (get : req.method ≠ .post)
    (opening : site.openFile pathname = .error error) (sends : Sends site req pathname false file) :
    error = .noEntry := by
  cases sends with
  | posted post => exact absurd post get
  | opened _ found => cases opening.symm.trans found
  | compressed _ missing =>
    cases opening.symm.trans missing
    rfl
  | index _ directory => cases opening.symm.trans directory
  | compressedIndex _ directory => cases opening.symm.trans directory
  | cached _ directory => cases opening.symm.trans directory

end Sending

/-! ## The gate and the table -/

/-- `translate_uri` refuses a path without a slash at its front. -/
theorem translateUri_rooted {site : Site} {req : UriRequest} {target : Target}
    (done : site.translateUri req = .ok target) : req.requestUri.head? = some 47 := by
  unfold translateUri at done
  dsimp only at done
  split at done
  · cases done
  · rename_i rooted
    exact not_not.mp rooted

/-- A site with one script, which only an operator may run. -/
def formatSite : Site where
  httpUri := [⟨ascii "/cgi-bin/format.cgi", false, Build.small.operator, false, false⟩]
  aliases := [⟨ascii "/cgi-bin/", ascii "/opt/ipnc/cgi-bin/", .scriptAlias, by decide, by decide⟩]
  documentRoot := some (ascii "/opt/www")
  virtualhost := false
  userDir := none
  homeDir := fun _ => none
  defaultType := ascii "text/plain"
  mimeTypes := fun _ => none
  directoryIndex := some (ascii "index.htm")
  dirmaker := false
  cachedir := none
  inode := fun _ => (0, 0)
  cacheError := fun _ => none
  stat := fun path =>
    if path = ascii "/opt/ipnc/cgi-bin/format.cgi" then some ⟨false, true⟩ else none
  openFile := fun _ => .error .noEntry
  sysEnvPath := ascii "/mnt/mtd/system.env"
  pathSetter := fun _ => none
  pathSetter_page := fun _ sets => absurd rfl sets

end Site
end BoaIpcam
