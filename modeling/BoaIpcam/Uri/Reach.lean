import BoaIpcam.Uri.Translate

/-!
# What a path stands for

`translate_uri` looks for an alias, walks along directories and looks at mime types. What it comes
to can be told of the path, the aliases and the file system alone: below a `ScriptAlias` the script
is the first thing on the way that is no directory, below an `Alias` the file is what the path names
there, and otherwise it is what the path names below the document root or in the directory of a
user. `Names` says this, and `translateUri_names_iff` that `translate_uri` decides it.
-/
namespace BoaIpcam.Site

/-! ## Scripts -/

/-- The path is a directory. -/
def IsDir (site : Site) (path : List UInt8) : Prop :=
  ∃ found, site.stat path = some found ∧ found.isDir = true

/-- The path is no directory, and may be executed. -/
def IsScript (site : Site) (path : List UInt8) : Prop :=
  ∃ found, site.stat path = some found ∧ found.isDir = false ∧ found.usable = true

/-- On the way from a position in a path the first thing that is no directory is a script; what
follows begins with a slash. -/
structure FirstFile (site : Site) (front left right : List UInt8) : Prop where
  /-- A component ends there. -/
  ends : right = [] ∨ right.head? = some 47
  /-- All that is passed is a directory. -/
  dirs : ∀ l r, left = l ++ 47 :: r → site.IsDir (front ++ l)
  /-- The script. -/
  file : site.IsScript (front ++ left)

/-- The path of a script fits its array. -/
def ScriptFits (req : UriRequest) (current : Alias) : Prop :=
  req.requestUri.length - current.fakename.length + current.realname.length ≤ maxHeaderLength

/-- What is left over behind the name of the alias, from its first slash on. -/
def leftoverInfo (req : UriRequest) : List UInt8 :=
  (req.leftover.takeWhile (· ≠ 0)).dropWhile (· ≠ 47)

/-- The path of a request stands for a path name, which is a script or not. -/
inductive Names (site : Site) (req : UriRequest) : List UInt8 → Bool → Prop
  /-- The first thing below a `ScriptAlias` that is no directory. -/
  | script {current : Alias} {c : UInt8} {left right : List UInt8}
      (covers : site.findAlias req.requestUri = some current)
      (kind : current.type = .scriptAlias) (short : ScriptFits req current)
      (path : req.requestUri.drop current.fakename.length = c :: (left ++ right))
      (first : FirstFile site (current.realname ++ [c]) left right)
      (translates : right ≠ [] → site.pathInfoError right = none) :
      Names site req (current.realname ++ [c] ++ left) true
  /-- A `ScriptAlias` that is a script itself. -/
  | ownScript {current : Alias} (covers : site.findAlias req.requestUri = some current)
      (kind : current.type = .scriptAlias) (short : ScriptFits req current)
      (path : req.requestUri.drop current.fakename.length = [])
      (file : site.IsScript current.realname)
      (translates : leftoverInfo req ≠ [] → site.pathInfoError (leftoverInfo req) = none) :
      Names site req current.realname true
  /-- A file below an `Alias`. -/
  | below {current : Alias} (covers : site.findAlias req.requestUri = some current)
      (kind : current.type = .alias)
      (short : current.realname.length + (req.requestUri.drop current.fakename.length).length ≤
        maxHeaderLength) :
      Names site req (current.realname ++ req.requestUri.drop current.fakename.length) false
  /-- A file of the document root or of a user; its type tells a script. -/
  | document {pathname : List UInt8} (free : site.findAlias req.requestUri = none)
      (file : site.unaliased req = .ok pathname)
      (allowed : site.getMimeType pathname = cgiMimeType ∨ req.method ≠ .post) :
      Names site req pathname (decide (site.getMimeType pathname = cgiMimeType))

/-- A request has a script. -/
def isScript (target : Target) : Bool := decide (target.isCgi ≠ .no)

/-- A request is given a path name, which is a script or not. -/
def Gives (result : Except Reply Target) (pathname : List UInt8) (script : Bool) : Prop :=
  ∃ target, result = .ok target ∧ target.pathname = some pathname ∧ isScript target = script

end BoaIpcam.Site
