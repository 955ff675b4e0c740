import BoaIpcam.Uri.Table

/-!
# From a path to a file

`translate_uri` of `alias.c` decides what a path stands for: a page that a handler makes, a
script below a `ScriptAlias`, a file below an `Alias`, the home directory of a user, or a file
below the document root. `init_script_alias` walks along the path of a script until it meets
something that is no directory; what follows is `path_info`.

What the functions read of the configuration and of the file system is a `Site`. Memory is always
there. The arrays `pathname` of `init_script_alias` and of `translate_uri` are static; when the
path ends with the name of the alias, `init_script_alias` starts its walk behind the end of the
string, in what earlier requests have left there (`leftover`).
-/
namespace BoaIpcam

/-- `MAX_HEADER_LENGTH`. -/
def maxHeaderLength : Nat := 1024

/-! ## The site -/

/-- The kinds of an alias. -/
inductive AliasType where
  | alias
  | redirect
  | scriptAlias
deriving DecidableEq, Repr

/-- An entry of the alias table. `add_alias` refuses empty names. -/
structure Alias where
  /-- The front of a path that it stands for. -/
  fakename : List UInt8
  /-- What is put in its place. -/
  realname : List UInt8
  /-- The directive that it comes from. -/
  type : AliasType
  /-- The name is not empty. -/
  fakename_ne : fakename ≠ []
  /-- Nor is what is put in its place. -/
  realname_ne : realname ≠ []

/-- What `stat` says: a directory or not, and whether one of the mode bits that the server looks
at is set. -/
structure Stat where
  /-- `S_ISDIR`. -/
  isDir : Bool
  /-- A mode bit that is looked at is set. -/
  usable : Bool
deriving DecidableEq, Repr

/-- The errors of `open` that the server tells apart. -/
inductive OpenError where
  | noEntry
  | access
  | other
deriving DecidableEq, Repr

/-- The handlers that set `pathname` themselves and return -1, so that `init_get` goes on with it:
`uri_export_conf`, `uri_sdcard_download` and `uri_sddownload`. -/
inductive PathSetter where
  | exportConf
  | sdcardDownload
  | sddownload
deriving DecidableEq, Repr

/-- The answers that close a request. -/
inductive Reply where
  | badRequest
  | notFound
  | forbidden
  | movedTemp
  | movedPerm
  | unauthorized
  | serviceUnavailable
  | error
deriving DecidableEq, Repr

/-- The configuration of the server, the table of the registered URIs, and the file system. -/
structure Site where
  /-- `HttpUri`. -/
  httpUri : List HttpUri
  /-- The directives `Alias`, `ScriptAlias` and `Redirect`, in the order of the search. -/
  aliases : List Alias
  /-- `DocumentRoot`. -/
  documentRoot : Option (List UInt8)
  /-- `VirtualHost`. -/
  virtualhost : Bool
  /-- `UserDir`. -/
  userDir : Option (List UInt8)
  /-- The home directories of the users. -/
  homeDir : List UInt8 → Option (List UInt8)
  /-- `DefaultType`. -/
  defaultType : List UInt8
  /-- The mime types by the extension. -/
  mimeTypes : List UInt8 → Option (List UInt8)
  /-- `DirectoryIndex`. -/
  directoryIndex : Option (List UInt8)
  /-- There is a `DirectoryMaker`. -/
  dirmaker : Bool
  /-- `DirectoryCache`. -/
  cachedir : Option (List UInt8)
  /-- `st_dev` and `st_ino` of a directory. -/
  inode : List UInt8 → Int × Int
  /-- The error with which `get_cachedir_file` finds or makes no index of a directory. -/
  cacheError : List UInt8 → Option Reply
  /-- `stat`. -/
  stat : List UInt8 → Option Stat
  /-- `open`; a file that can be opened is a directory or not. -/
  openFile : List UInt8 → Except OpenError Bool
  /-- `SYS_ENV_PATH`. -/
  sysEnvPath : List UInt8
  /-- The entries whose handler sets `pathname`. -/
  pathSetter : HttpUri → Option PathSetter
  /-- They are pages. -/
  pathSetter_page : ∀ entry, pathSetter entry ≠ none →
    entry.virtualPage = true ∨ entry.volatileFile = true

/-- The methods the server knows. -/
inductive Method where
  | get
  | head
  | post
deriving DecidableEq, Repr

/-- What `translate_uri` and the handlers read of a request. -/
structure UriRequest where
  /-- The method of the request line. -/
  method : Method
  /-- HTTP/0.9. -/
  simple : Bool
  /-- The URI of the request line. -/
  requestUri : List UInt8
  /-- The address of the host, for `VirtualHost`. -/
  localIpAddr : List UInt8
  /-- What earlier requests have left in the array of `init_script_alias`. -/
  leftover : List UInt8
  /-- The arguments in `cmd_arg`; there are none when the query has none or is not decoded. -/
  args : List (List UInt8 × List UInt8)
deriving DecidableEq, Repr

/-- `is_cgi`. -/
inductive CgiType where
  | no
  | cgi
  | nph
deriving DecidableEq, Repr

/-- What `translate_uri` writes into a request: `http_uri`, `pathname`, `is_cgi` and
`path_info`. -/
structure Target where
  /-- `http_uri`. -/
  entry : Option HttpUri
  /-- `pathname`. -/
  pathname : Option (List UInt8)
  /-- `is_cgi`. -/
  isCgi : CgiType
  /-- `path_info`. -/
  pathInfo : Option (List UInt8)
deriving DecidableEq, Repr

/-! ## Aliases -/

/-- `get_alias_hash_value`: the sum of the bytes up to the second slash. -/
def getAliasHashValue : List UInt8 → UInt32
  | [] => 0
  | c :: rest =>
    (rest.takeWhile (· ≠ 47)).foldl (fun hash c => hash + c.toUInt32) c.toUInt32 % 17

/-- The test of `find_alias`: the path begins with the name of the alias, and the name ends with
a slash or is followed by one or by nothing. -/
def Alias.Covers (entry : Alias) (uri : List UInt8) : Prop :=
  entry.fakename <+: uri ∧ (entry.fakename.getLast? = some 47 ∨
    uri.drop entry.fakename.length = [] ∨ (uri.drop entry.fakename.length).head? = some 47)

instance (entry : Alias) (uri : List UInt8) : Decidable (entry.Covers uri) :=
  inferInstanceAs (Decidable (_ ∧ (_ ∨ _ ∨ _)))

namespace Site

/-- `find_alias`: the first entry of the bucket that covers the path. -/
def findAlias (site : Site) (uri : List UInt8) : Option Alias :=
  site.aliases.find? fun entry =>
    getAliasHashValue entry.fakename = getAliasHashValue uri ∧ entry.Covers uri

/-! ## Scripts -/

/-- The checks of a path that `stat` knows and that is no directory. -/
def script (found : Stat) (pathname : List UInt8) (pathInfo : Option (List UInt8)) :
    Except Reply (List UInt8 × Option (List UInt8)) :=
  if found.usable then .ok (pathname, pathInfo) else .error .forbidden

/-- The walk of `init_script_alias` from a position in `pathname`; the first argument is what is
in front of the position. -/
def walk (site : Site) (front : List UInt8) :
    List UInt8 → Except Reply (List UInt8 × Option (List UInt8))
  | [] =>
    match site.stat front with
    | none => .error .notFound
    | some found => if found.isDir then .error .forbidden else script found front none
  | c :: rest =>
    if c = 47 then
      match site.stat front with
      | none => .error .notFound
      | some found =>
        if found.isDir then walk site (front ++ [c]) rest
        else script found front (some (c :: rest))
    else walk site (front ++ [c]) rest

/-- The walk when the path ends with the name of the alias. It goes through what is left over in
the array, but the string that `stat` sees is always the whole of `pathname`. -/
def walkLeftover (site : Site) (pathname leftover : List UInt8) :
    Except Reply (List UInt8 × Option (List UInt8)) :=
  match site.stat pathname with
  | none => .error .notFound
  | some found =>
    if found.isDir then .error .forbidden
    else
      match (leftover.takeWhile (· ≠ 0)).dropWhile (· ≠ 47) with
      | [] => script found pathname none
      | pathInfo => script found pathname (some pathInfo)

/-- What can go wrong when `path_info` is translated: the translation is too long, or it names a
user that does not exist. -/
def pathInfoError (site : Site) (pathInfo : List UInt8) : Option Reply :=
  let bucket := site.aliases.find? fun entry =>
    getAliasHashValue entry.fakename = getAliasHashValue pathInfo ∧ entry.fakename <+: pathInfo
  match bucket with
  | some entry =>
    if entry.realname.length + pathInfo.length - entry.fakename.length > maxHeaderLength then
      some .badRequest
    else none
  | none =>
    match site.userDir, pathInfo with
    | some _, _ :: 126 :: rest =>
      if (site.homeDir (rest.takeWhile (· ≠ 47))).isNone then some .notFound else none
    | _, _ => none

/-- The script of a path and its `path_info`. The walk starts behind the first character that follows
the name of the alias. -/
def scriptPath (site : Site) (req : UriRequest) (current : Alias) :
    Except Reply (List UInt8 × Option (List UInt8)) :=
  match req.requestUri.drop current.fakename.length with
  | [] => site.walkLeftover current.realname req.leftover
  | c :: rest => site.walk (current.realname ++ [c]) rest

/-- The kind of a script. -/
def scriptType (req : UriRequest) (current : Alias) : CgiType :=
  if ascii "nph-" <+: req.requestUri.drop current.fakename.length ∨ req.simple then .nph else .cgi

/-- `init_script_alias`. -/
def initScriptAlias (site : Site) (req : UriRequest) (entry : Option HttpUri) (current : Alias) :
    Except Reply Target :=
  if req.requestUri.length - current.fakename.length + current.realname.length >
      maxHeaderLength then .error .badRequest
  else
    match site.scriptPath req current with
    | .error reply => .error reply
    | .ok (pathname, pathInfo) =>
      match pathInfo.bind site.pathInfoError with
      | some reply => .error reply
      | none => .ok ⟨entry, some pathname, scriptType req current, pathInfo⟩

/-! ## Other files -/

/-- `get_mime_type`: the type of what follows the last dot. -/
def getMimeType (site : Site) (filename : List UInt8) : List UInt8 :=
  match splitAtByte 46 filename.reverse with
  | none => site.defaultType
  | some (extension, _) => (site.mimeTypes extension.reverse).getD site.defaultType

/-- `CGI_MIME_TYPE`. -/
def cgiMimeType : List UInt8 := ascii "application/x-httpd-cgi"

/-- The part of `translate_uri` for a path that no alias covers: the file it stands for. -/
def unaliased (site : Site) (req : UriRequest) : Except Reply (List UInt8) :=
  match site.userDir, req.requestUri with
  | some userDir, _ :: 126 :: rest =>
    match site.homeDir (rest.takeWhile (· ≠ 47)) with
    | none => .error .notFound
    | some home =>
      let tail := rest.dropWhile (· ≠ 47)
      if home.length + userDir.length + tail.length + 1 > maxHeaderLength then .error .badRequest
      else .ok (home ++ [47] ++ userDir ++ tail)
  | _, uri =>
    match site.documentRoot with
    | none => .error .notFound
    | some root =>
      let host := if site.virtualhost then req.localIpAddr else []
      if root.length + uri.length + host.length + 1 > maxHeaderLength then .error .badRequest
      else .ok (if site.virtualhost then root ++ [47] ++ host ++ uri else root ++ uri)

/-- `JPEG_FRAME_URI`. -/
def jpegFrameUri : List UInt8 := ascii "/dms"

/-- The entry of the path: the first of the table for a path that begins with `JPEG_FRAME_URI` up to
case, and what `http_uri_search` finds otherwise. -/
def entryOf (site : Site) (uri : List UInt8) : Option HttpUri :=
  if StrCaseEq (uri.take jpegFrameUri.length) jpegFrameUri then site.httpUri.head?
  else httpUriSearch site.httpUri uri

/-- The path has a page and no file. -/
def IsPage (site : Site) (uri : List UInt8) : Prop :=
  StrCaseEq (uri.take jpegFrameUri.length) jpegFrameUri ∨
    ∃ entry ∈ httpUriSearch site.httpUri uri, entry.virtualPage ∨ entry.volatileFile

instance (site : Site) (uri : List UInt8) : Decidable (site.IsPage uri) :=
  inferInstanceAs (Decidable (_ ∨ ∃ entry ∈ httpUriSearch site.httpUri uri, _))

/-- The part of `translate_uri` for a path below an `Alias` or a `Redirect`. -/
def aliased (req : UriRequest) (entry : Option HttpUri) (current : Alias) : Except Reply Target :=
  let rest := req.requestUri.drop current.fakename.length
  if current.realname.length + rest.length > maxHeaderLength then .error .badRequest
  else if current.type = .redirect then
    .error (if req.method = .post then .badRequest else .movedTemp)
  else .ok ⟨entry, some (current.realname ++ rest), .no, none⟩

/-- The end of `translate_uri`: a script outside of a `ScriptAlias` is known by its type. -/
def document (site : Site) (req : UriRequest) (entry : Option HttpUri) (pathname : List UInt8) :
    Except Reply Target :=
  if site.getMimeType pathname = cgiMimeType then
    .ok ⟨entry, some pathname, if req.simple then .nph else .cgi, none⟩
  else if req.method = .post then .error .badRequest
  else .ok ⟨entry, some pathname, .no, none⟩

/-- `translate_uri`. -/
def translateUri (site : Site) (req : UriRequest) : Except Reply Target :=
  let entry := site.entryOf req.requestUri
  if req.requestUri.head? ≠ some 47 then .error .badRequest
  else if site.IsPage req.requestUri then .ok ⟨entry, none, .no, none⟩
  else
    match site.findAlias req.requestUri with
    | some current =>
      if current.type = .scriptAlias then site.initScriptAlias req entry current
      else aliased req entry current
    | none =>
      match site.unaliased req with
      | .error reply => .error reply
      | .ok pathname => site.document req entry pathname

/-- A path that is translated has the entry that was looked up for it. -/
theorem translateUri_entry {site : Site} {req : UriRequest} {target : Target}
    (done : site.translateUri req = .ok target) : target.entry = site.entryOf req.requestUri := by
  unfold translateUri at done
  dsimp only at done
  split at done
  · cases done
  split at done
  · cases done
    rfl
  split at done
  · split at done
    · unfold initScriptAlias at done
      split at done
      · cases done
      split at done
      · cases done
      split at done <;> cases done
      rfl
    · unfold aliased at done
      dsimp only at done
      split at done
      · cases done
      split at done <;> cases done
      rfl
  · split at done
    · cases done
    unfold document at done
    split at done
    · cases done
      rfl
    split at done <;> cases done
    rfl

/-! ## Path info -/

/-- A walk that ends with the whole path ends at the same file when more follows. -/
theorem walk_append {site : Site} {front rest file : List UInt8}
    (whole : site.walk front rest = .ok (file, none)) (info : List UInt8) :
    site.walk front (rest ++ 47 :: info) = .ok (file, some (47 :: info)) := by
  induction rest generalizing front with
  | nil =>
    rw [walk] at whole
    rw [List.nil_append, walk, if_pos rfl]
    cases found : site.stat front with
    | none =>
      rw [found] at whole
      cases whole
    | some stat =>
      simp only [found] at whole ⊢
      by_cases dir : stat.isDir
      · rw [if_pos dir] at whole
        cases whole
      · rw [if_neg dir] at whole ⊢
        unfold script at whole ⊢
        by_cases usable : stat.usable
        · rw [if_pos usable] at whole ⊢
          cases whole
          rfl
        · rw [if_neg usable] at whole
          cases whole
  | cons c rest ih =>
    rw [walk] at whole
    rw [List.cons_append, walk]
    by_cases slash : c = 47
    · rw [if_pos slash] at whole ⊢
      cases found : site.stat front with
      | none =>
        rw [found] at whole
        cases whole
      | some stat =>
        simp only [found] at whole ⊢
        by_cases dir : stat.isDir
        · rw [if_pos dir] at whole ⊢
          exact ih whole
        · rw [if_neg dir, script] at whole
          split at whole <;> cases whole
    · rw [if_neg slash] at whole ⊢
      exact ih whole

end Site
end BoaIpcam
