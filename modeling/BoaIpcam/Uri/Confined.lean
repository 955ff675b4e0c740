import BoaIpcam.Lib.Splits
import BoaIpcam.Sd.Confined
import BoaIpcam.Uri.Gate

/-!
# Where files are served from

`clean_pathname` leaves no name `.` or `..` in front of a slash. So a path of the server stays below
the directory that it is put behind; only `..` alone behind it is the directory above, in which
no file is named. What a handler names itself is not cleaned, and is counted among the places the
server serves from.
-/
namespace BoaIpcam.DocumentRoot

open Directories
open Sd (location steps toStep)

/-! ## Cleaned paths -/

/-- A text behind a slash in which all components but the last are names. -/
def Cleaned (rel : List UInt8) : Prop :=
  ∀ part ∈ (rel.splitOn 47).dropLast, toStep part = .down part

/-- The components of a text that is put behind a slash. -/
theorem dropLast_splitOn_slash (left right : List UInt8) :
    ((left ++ 47 :: right).splitOn 47).dropLast =
      left.splitOn 47 ++ (right.splitOn 47).dropLast := by
  rw [List.splitOn_append_cons_self, List.dropLast_append_of_ne_nil (List.splitOn_ne_nil _ _)]

/-- What stands behind a slash of a cleaned text, and what stands in front of it. -/
theorem Cleaned.cut {left right : List UInt8} (cleaned : Cleaned (left ++ 47 :: right)) :
    (∀ part ∈ left.splitOn 47, toStep part = .down part) ∧ Cleaned right := by
  rw [Cleaned, dropLast_splitOn_slash, List.forall_mem_append] at cleaned
  exact cleaned

/-- Names are cleaned. -/
theorem Cleaned.of_names {rel : List UInt8}
    (names : ∀ part ∈ rel.splitOn 47, toStep part = .down part) : Cleaned rel :=
  fun part member => names part (List.dropLast_subset _ member)

/-- A single component is cleaned. -/
theorem Cleaned.single {rel : List UInt8} (plain : 47 ∉ rel) : Cleaned rel := by
  rw [Cleaned, List.splitOn_eq_singleton plain]
  exact fun part member => absurd member List.not_mem_nil

/-- A text without a slash, or its last slash. -/
theorem lastSlash (text : List UInt8) :
    47 ∉ text ∨ ∃ left right, text = left ++ 47 :: right ∧ 47 ∉ right := by
  induction text with
  | nil => exact .inl List.not_mem_nil
  | cons c text ih =>
    rcases ih with plain | ⟨left, right, rfl, plain⟩
    · by_cases slash : c = 47
      · exact .inr ⟨[], text, by rw [slash]; rfl, plain⟩
      · left
        intro member
        rcases List.mem_cons.mp member with same | later
        · exact slash same.symm
        · exact plain later
    · exact .inr ⟨c :: left, right, rfl, plain⟩

/-- The last component of a cleaned text may go on. -/
theorem Cleaned.append {rel more : List UInt8} (cleaned : Cleaned rel) (plain : 47 ∉ more) :
    Cleaned (rel ++ more) := by
  rcases lastSlash rel with single | ⟨left, right, rfl, last⟩
  · apply Cleaned.single
    intro member
    rcases List.mem_append.mp member with here | there
    · exact single here
    · exact plain there
  · have names := cleaned.cut.1
    rw [List.append_assoc, List.cons_append]
    intro part member
    rw [dropLast_splitOn_slash] at member
    have tail : 47 ∉ right ++ more := by
      intro slash
      rcases List.mem_append.mp slash with here | there
      · exact last here
      · exact plain there
    rw [List.splitOn_eq_singleton tail, List.dropLast_singleton, List.append_nil] at member
    exact names part member

/-! ## `clean_pathname` -/

/-- Between slashes `clean_pathname` copies a character. -/
theorem cleanFrom_between (c : UInt8) (text : List UInt8) :
    cleanFrom false (c :: text) = c :: cleanFrom (decide (c = 47)) text := by
  rw [cleanFrom] <;> nofun

/-- Between slashes `clean_pathname` copies. -/
theorem cleanFrom_copy {left : List UInt8} (plain : 47 ∉ left) (right : List UInt8) :
    cleanFrom false (left ++ 47 :: right) = left ++ 47 :: cleanFrom true right := by
  induction left with
  | nil => rfl
  | cons c left ih =>
    have apart : c ≠ 47 := fun same => plain (same ▸ List.mem_cons_self)
    have rest := ih fun member => plain (List.mem_cons_of_mem _ member)
    have other : decide (c = 47) = false := decide_eq_false apart
    rw [List.cons_append, List.cons_append, cleanFrom_between, other, rest]

/-- Without a slash it copies all. -/
theorem cleanFrom_plain {text : List UInt8} (plain : 47 ∉ text) : cleanFrom false text = text := by
  induction text with
  | nil => rfl
  | cons c text ih =>
    have apart : c ≠ 47 := fun same => plain (same ▸ List.mem_cons_self)
    have rest := ih fun member => plain (List.mem_cons_of_mem _ member)
    have other : decide (c = 47) = false := decide_eq_false apart
    rw [cleanFrom_between, other, rest]

/-- The names that `clean_pathname` removes in front of a slash. -/
def skipped : List (List UInt8) := [[], ascii ".", ascii ".."]

/-- After a slash it goes on as between slashes, unless a name to remove follows. -/
theorem cleanFrom_start {text : List UInt8} (kept : ∀ name ∈ skipped, ¬name ++ [47] <+: text) :
    cleanFrom true text = cleanFrom false text := by
  cases text with
  | nil => rfl
  | cons c text =>
    rw [cleanFrom_between, cleanFrom]
    · rintro - rfl
      exact kept [] (by decide) ⟨text, rfl⟩
    · rintro rest - rfl rfl
      exact kept (ascii ".") (by decide) ⟨rest, rfl⟩
    · rintro rest - rfl rfl
      exact kept (ascii "..") (by decide) ⟨rest, rfl⟩

/-- A component that is not removed is a name. -/
theorem down_of_not_skipped {part : List UInt8} (kept : part ∉ skipped) :
    toStep part = .down part := by
  have apart : part ≠ [] ∧ part ≠ ascii "." ∧ part ≠ ascii ".." := by
    simpa [skipped] using kept
  rw [toStep, if_neg fun either => either.elim apart.1 apart.2.1, if_neg apart.2.2]

/-- After a slash `clean_pathname` leaves a cleaned text. -/
theorem cleaned_cleanFrom (text : List UInt8) : Cleaned (cleanFrom true text) := by
  induction size : text.length using Nat.strong_induction_on generalizing text with
  | _ n ih =>
    subst size
    by_cases skip : ∃ name ∈ skipped, name ++ [47] <+: text
    · obtain ⟨name, member, rest, rfl⟩ := skip
      have shorter : rest.length < (name ++ [47] ++ rest).length := by
        simp only [List.length_append, List.length_singleton]
        omega
      have same : cleanFrom true (name ++ [47] ++ rest) = cleanFrom true rest := by
        have cases : name = [] ∨ name = ascii "." ∨ name = ascii ".." := by
          simpa [skipped] using member
        rcases cases with rfl | rfl | rfl
        · rfl
        · rfl
        · rfl
      rw [same]
      exact ih _ shorter rest rfl
    · have kept : ∀ name ∈ skipped, ¬name ++ [47] <+: text :=
        fun name member front => skip ⟨name, member, front⟩
      rw [cleanFrom_start kept]
      by_cases slash : 47 ∈ text
      · obtain ⟨left, right, rfl, plain⟩ := List.eq_append_cons_of_mem slash
        have name : toStep left = .down left := by
          apply down_of_not_skipped
          intro member
          exact kept left member ⟨right, by simp⟩
        have shorter : right.length < (left ++ 47 :: right).length := by
          rw [List.length_append, List.length_cons]
          omega
        rw [cleanFrom_copy plain, Cleaned, dropLast_splitOn_slash,
          List.splitOn_eq_singleton plain, List.forall_mem_append]
        exact ⟨fun part member => by rw [List.mem_singleton.mp member, name],
          ih _ shorter right rfl⟩
      · rw [cleanFrom_plain slash]
        exact Cleaned.single slash

/-- A path that begins with a slash is cleaned behind it. -/
theorem cleanPathname_slash {uri : List UInt8} (rooted : (cleanPathname uri).head? = some 47) :
    ∃ rel, cleanPathname uri = 47 :: rel ∧ Cleaned rel := by
  cases uri with
  | nil => cases rooted
  | cons c uri =>
    have copied : cleanPathname (c :: uri) = c :: cleanFrom (decide (c = 47)) uri :=
      cleanFrom_between c uri
    rw [copied, List.head?_cons, Option.some.injEq] at rooted
    subst rooted
    exact ⟨_, copied, cleaned_cleanFrom uri⟩

/-! ## Where a cleaned path leads -/

/-- Names lead down. -/
theorem steps_names {rel : List UInt8} (names : ∀ part ∈ rel.splitOn 47, toStep part = .down part) :
    steps rel = (rel.splitOn 47).map .down :=
  List.map_congr_left names

/-- A path that goes on with names leads below. -/
theorem location_names_below {rel : List UInt8}
    (names : ∀ part ∈ rel.splitOn 47, toStep part = .down part) (base : List UInt8) :
    location (base ++ 47 :: rel) = location base ++ rel.splitOn 47 := by
  rw [Sd.location_slash, steps_names names, walk_down]

/-- A cleaned path leads below its start, but for `..` alone. -/
theorem location_cleaned {rel : List UInt8} (cleaned : Cleaned rel) (base : List UInt8) :
    location base <+: location (base ++ 47 :: rel) ∨
      rel = ascii ".." ∧ location (base ++ 47 :: rel) = (location base).dropLast := by
  rcases lastSlash rel with single | ⟨left, right, rfl, last⟩
  · rw [Sd.location_slash, Sd.steps_plain single]
    by_cases up : rel = ascii ".."
    · right
      rw [up]
      exact ⟨rfl, rfl⟩
    · left
      unfold toStep
      split
      · exact List.prefix_rfl
      · exact List.prefix_append _ _
  · left
    have names := cleaned.cut.1
    have whole : base ++ 47 :: (left ++ 47 :: right) = (base ++ 47 :: left) ++ 47 :: right := by
      rw [List.append_assoc, List.cons_append]
    rw [whole, Sd.location_slash, Sd.steps_plain last, location_names_below names]
    unfold toStep
    split
    · exact List.prefix_append _ _
    split
    · have some : left.splitOn 47 ≠ [] := List.splitOn_ne_nil _ _
      change location base <+: (location base ++ left.splitOn 47).dropLast
      rw [List.dropLast_append_of_ne_nil some]
      exact List.prefix_append _ _
    · exact (List.prefix_append _ _).trans (List.prefix_append _ _)

/-- A trailing slash does not lead anywhere. -/
theorem location_trailing (path : List UInt8) : location (path ++ [47]) = location path := by
  rw [Sd.location_slash, Sd.steps_plain List.not_mem_nil]
  rfl

/-! ## The directories that the server serves from -/

/-- A directory (or file) that the configuration names (of an alias, the document root, of a user,
or of `DirectoryCache`), or that a handler names for the request. -/
inductive Base (site : Site) (req : UriRequest) : List UInt8 → Prop where
  /-- The target of an alias. -/
  | alias {entry : Alias} (member : entry ∈ site.aliases) (kind : entry.type ≠ .redirect) :
      Base site req entry.realname
  /-- The document root. -/
  | root {path : List UInt8} (configured : site.documentRoot = some path)
      (plain : site.virtualhost = false) : Base site req path
  /-- The document root of the host. -/
  | host {path : List UInt8} (configured : site.documentRoot = some path)
      (virtual : site.virtualhost = true) : Base site req (path ++ [47] ++ req.localIpAddr)
  /-- The directory of a user. -/
  | user {userDir user home : List UInt8} (configured : site.userDir = some userDir)
      (found : site.homeDir user = some home) : Base site req (home ++ [47] ++ userDir)
  /-- The directory of the indexes that the server makes. -/
  | cache {path : List UInt8} (configured : site.cachedir = some path) : Base site req path
  /-- `SYS_ENV_PATH`, or what an argument names behind `/mnt/mmc`. -/
  | handler {entry : HttpUri} {setter : PathSetter} {path : List UInt8}
      (member : entry ∈ site.httpUri) (sets : site.pathSetter entry = some setter)
      (named : site.runSetter req setter = .opens path) : Base site req path

/-- The path is the base, or a cleaned text stands behind the base and a slash. -/
def Within (base path : List UInt8) : Prop :=
  path = base ∨ ∃ front rel, path = front ++ 47 :: rel ∧ location front = location base ∧
    Cleaned rel

/-- The path denotes the base or something below it. Otherwise it is the compressed file beside the
base, or it ends with `..` and denotes the directory that holds the base. -/
def Beneath (base path : List UInt8) : Prop :=
  location base <+: location path ∨ path = base ++ Site.gz ∨
    ascii "/.." <:+ path ∧ location path = (location base).dropLast

/-- What is within the base is beneath it. -/
theorem Within.beneath {base path : List UInt8} (within : Within base path) :
    Beneath base path := by
  rcases within with rfl | ⟨front, rel, rfl, same, cleaned⟩
  · exact .inl List.prefix_rfl
  · rcases location_cleaned cleaned front with below | ⟨rfl, above⟩
    · left
      rw [← same]
      exact below
    · right
      right
      rw [← same]
      exact ⟨List.suffix_append front _, above⟩

/-- A last component that goes on leads beneath the base too. -/
theorem Within.beneath_append {base path more : List UInt8} (within : Within base path)
    (plain : 47 ∉ more) (gz : path = base → more = Site.gz) : Beneath base (path ++ more) := by
  by_cases whole : path = base
  · rw [whole, gz whole]
    exact .inr (.inl rfl)
  · rcases within with same | ⟨front, rel, rfl, same, cleaned⟩
    · exact absurd same whole
    · have longer : Within base (front ++ 47 :: rel ++ more) :=
        .inr ⟨front, rel ++ more, by rw [List.append_assoc, List.cons_append], same,
          cleaned.append plain⟩
      exact longer.beneath

/-- What is within the base and ends with a slash goes on behind it. -/
theorem Within.into {base path more : List UInt8} (within : Within base path)
    (slash : path.getLast? = some 47) (plain : 47 ∉ more) : Within base (path ++ more) := by
  rcases within with rfl | ⟨front, rel, rfl, same, cleaned⟩
  · obtain ⟨front, rfl⟩ := List.getLast?_eq_some_iff.mp slash
    refine .inr ⟨front, more, by rw [List.append_assoc]; rfl, ?_, Cleaned.single plain⟩
    exact (location_trailing front).symm
  · refine .inr ⟨front, rel ++ more, ?_, same, cleaned.append plain⟩
    rw [List.append_assoc, List.cons_append]

/-- A part of a path within the base that ends in front of a slash is within the base. -/
theorem Within.cut {base front left right : List UInt8} (same : location front = location base)
    (cleaned : Cleaned (left ++ right)) (ends : right = [] ∨ right.head? = some 47) :
    Within base (front ++ 47 :: left) := by
  refine .inr ⟨front, left, rfl, same, ?_⟩
  rcases ends with rfl | slash
  · rw [List.append_nil] at cleaned
    exact cleaned
  · obtain ⟨rest, rfl⟩ := List.head?_eq_some_iff.mp slash
    exact Cleaned.of_names cleaned.cut.1

/-! ## `translate_uri` -/

/-- An alias whose name ends with a slash stands for a path that does. -/
def SoundAliases (site : Site) : Prop :=
  ∀ entry ∈ site.aliases, entry.fakename.getLast? = some 47 → entry.realname.getLast? = some 47

/-- What stands behind a slash of a cleaned path is cleaned. -/
theorem Cleaned.behind {rel left right : List UInt8} (cleaned : Cleaned rel)
    (cut : 47 :: rel = left ++ 47 :: right) : Cleaned right := by
  cases left with
  | nil =>
    rw [List.nil_append, List.cons.injEq] at cut
    rw [← cut.2]
    exact cleaned
  | cons c left =>
    rw [List.cons_append, List.cons.injEq] at cut
    rw [cut.2] at cleaned
    exact cleaned.cut.2

/-- What follows the name of an alias in a cleaned path: nothing, a text behind a real name that
ends with a slash, or a slash and a text. -/
theorem alias_rest {entry : Alias} {rel : List UInt8} (cleaned : Cleaned rel)
    (covers : entry.Covers (47 :: rel))
    (sound : entry.fakename.getLast? = some 47 → entry.realname.getLast? = some 47) :
    (47 :: rel).drop entry.fakename.length = [] ∨
      (Cleaned ((47 :: rel).drop entry.fakename.length) ∧
        ∃ front, entry.realname = front ++ [47]) ∨
      ∃ rest, (47 :: rel).drop entry.fakename.length = 47 :: rest ∧ Cleaned rest := by
  obtain ⟨⟨rest, whole⟩, ends⟩ := covers
  have same : (47 :: rel).drop entry.fakename.length = rest := by
    rw [← whole, List.drop_left]
  rw [same] at ends ⊢
  rcases ends with slash | nothing | slash
  · right
    left
    obtain ⟨left, name⟩ := List.getLast?_eq_some_iff.mp slash
    rw [name, List.append_assoc] at whole
    exact ⟨cleaned.behind whole.symm, List.getLast?_eq_some_iff.mp (sound slash)⟩
  · exact .inl nothing
  · right
    right
    obtain ⟨tail, rfl⟩ := List.head?_eq_some_iff.mp slash
    exact ⟨tail, rfl, cleaned.behind whole.symm⟩

/-- The alias that is found is one of the configuration and covers the path. -/
theorem findAlias_covers {site : Site} {uri : List UInt8} {entry : Alias}
    (found : site.findAlias uri = some entry) : entry ∈ site.aliases ∧ entry.Covers uri := by
  have test := List.find?_some found
  simp only [decide_eq_true_iff] at test
  exact ⟨List.mem_of_find?_eq_some found, test.2⟩

/-- `init_script_alias` stops at the end of the path or in front of a slash. -/
theorem walk_cut {site : Site} {front rest file : List UInt8} {info : Option (List UInt8)}
    (done : site.walk front rest = .ok (file, info)) :
    ∃ left right, rest = left ++ right ∧ file = front ++ left ∧
      (right = [] ∨ right.head? = some 47) := by
  induction rest generalizing front with
  | nil =>
    unfold Site.walk at done
    split at done
    · cases done
    split at done
    · cases done
    unfold Site.script at done
    split at done <;> cases done
    exact ⟨[], [], rfl, (List.append_nil _).symm, .inl rfl⟩
  | cons c rest ih =>
    have further : ∀ next, site.walk (front ++ [c]) rest = .ok next → next = (file, info) →
        ∃ left right, c :: rest = left ++ right ∧ file = front ++ left ∧
          (right = [] ∨ right.head? = some 47) := by
      rintro next later rfl
      obtain ⟨left, right, rfl, rfl, ends⟩ := ih later
      exact ⟨c :: left, right, rfl, by rw [List.append_assoc]; rfl, ends⟩
    unfold Site.walk at done
    split at done
    · rename_i slash
      split at done
      · cases done
      split at done
      · exact further _ done rfl
      · unfold Site.script at done
        split at done <;> cases done
        exact ⟨[], c :: rest, rfl, (List.append_nil _).symm, .inr (by rw [slash]; rfl)⟩
    · exact further _ done rfl

/-- The walk through leftovers stays with the alias itself. -/
theorem walkLeftover_path {site : Site} {path leftover file : List UInt8}
    {info : Option (List UInt8)} (done : site.walkLeftover path leftover = .ok (file, info)) :
    file = path := by
  unfold Site.walkLeftover at done
  split at done
  · cases done
  split at done
  · cases done
  unfold Site.script at done
  split at done
  · split at done <;> cases done
    rfl
  · split at done <;> cases done
    rfl

/-- A script is within its alias. -/
theorem scriptPath_within {site : Site} {req : UriRequest} {entry : Alias} {rel : List UInt8}
    {file : List UInt8} {info : Option (List UInt8)} (rooted : req.requestUri = 47 :: rel)
    (cleaned : Cleaned rel) (covers : entry.Covers (47 :: rel))
    (sound : entry.fakename.getLast? = some 47 → entry.realname.getLast? = some 47)
    (done : site.scriptPath req entry = .ok (file, info)) : Within entry.realname file := by
  unfold Site.scriptPath at done
  rw [rooted] at done
  rcases alias_rest cleaned covers sound with nothing | ⟨behind, front, real⟩ | ⟨rest, next, behind⟩
  · rw [nothing] at done
    exact .inl (walkLeftover_path done)
  · cases after : (47 :: rel).drop entry.fakename.length with
    | nil =>
      rw [after] at done
      exact .inl (walkLeftover_path done)
    | cons c rest =>
      rw [after] at done behind
      obtain ⟨left, right, rfl, rfl, ends⟩ := walk_cut done
      have whole : entry.realname ++ [c] ++ left = front ++ 47 :: (c :: left) := by
        rw [real]
        simp
      rw [whole]
      exact Within.cut (by rw [real, location_trailing]) behind ends
  · rw [next] at done
    obtain ⟨left, right, rfl, rfl, ends⟩ := walk_cut done
    rw [List.append_assoc]
    exact Within.cut rfl behind ends

/-- A file below an `Alias` is within it. -/
theorem alias_within {entry : Alias} {rel : List UInt8} (cleaned : Cleaned rel)
    (covers : entry.Covers (47 :: rel))
    (sound : entry.fakename.getLast? = some 47 → entry.realname.getLast? = some 47) :
    Within entry.realname (entry.realname ++ (47 :: rel).drop entry.fakename.length) := by
  rcases alias_rest cleaned covers sound with nothing | ⟨behind, front, real⟩ | ⟨rest, next, behind⟩
  · rw [nothing, List.append_nil]
    exact .inl rfl
  · refine .inr ⟨front, _, ?_, ?_, behind⟩
    · nth_rewrite 1 [real]
      rw [List.append_assoc]
      rfl
    · rw [real, location_trailing]
  · rw [next]
    exact .inr ⟨entry.realname, rest, rfl, rfl, behind⟩

/-- A path that no alias covers is within the document root or the directory of a user. -/
theorem unaliased_within {site : Site} {req : UriRequest} {rel path : List UInt8}
    (rooted : req.requestUri = 47 :: rel) (cleaned : Cleaned rel)
    (done : site.unaliased req = .ok path) : ∃ base, Base site req base ∧ Within base path := by
  unfold Site.unaliased at done
  split at done
  · rename_i userDir first rest configured uri
    split at done
    · cases done
    rename_i home found
    dsimp only at done
    split at done <;> cases done
    refine ⟨home ++ [47] ++ userDir, .user configured found, ?_⟩
    cases tail : rest.dropWhile (· ≠ 47) with
    | nil =>
      rw [List.append_nil]
      exact .inl rfl
    | cons c tail' =>
      have slash : c = 47 := by
        have stop := List.head?_dropWhile_not (fun d : UInt8 => decide (d ≠ 47)) rest
        rw [tail] at stop
        simpa using stop
      subst slash
      have cut : 47 :: rel = (first :: 126 :: rest.takeWhile (· ≠ 47)) ++ 47 :: tail' := by
        rw [← rooted, uri, List.cons_append, List.cons_append, ← tail,
          List.takeWhile_append_dropWhile]
      exact .inr ⟨_, tail', rfl, rfl, cleaned.behind cut⟩
  · split at done
    · cases done
    rename_i root configured
    rw [rooted] at done
    dsimp only at done
    split at done
    · rename_i virtual
      split at done <;> cases done
      exact ⟨_, .host configured virtual, .inr ⟨_, rel, rfl, rfl, cleaned⟩⟩
    · rename_i plain
      split at done <;> cases done
      exact ⟨root, .root configured (Bool.eq_false_iff.mpr plain),
        .inr ⟨root, rel, rfl, rfl, cleaned⟩⟩

/-- What `translate_uri` makes of a cleaned path is within a directory that the server serves
from. -/
theorem translateUri_within {site : Site} {req : UriRequest} {rel path : List UInt8}
    {target : Target} (sound : SoundAliases site) (rooted : req.requestUri = 47 :: rel)
    (cleaned : Cleaned rel) (done : site.translateUri req = .ok target)
    (named : target.pathname = some path) : ∃ base, Base site req base ∧ Within base path := by
  unfold Site.translateUri at done
  dsimp only at done
  split at done
  · cases done
  split at done
  · cases done
    cases named
  split at done
  · rename_i entry found
    obtain ⟨member, covers⟩ := findAlias_covers found
    rw [rooted] at covers
    split at done
    · rename_i kind
      refine ⟨entry.realname, .alias member (by rw [kind]; decide), ?_⟩
      unfold Site.initScriptAlias at done
      split at done
      · cases done
      split at done
      · cases done
      rename_i file info script
      split at done <;> cases done
      cases named
      exact scriptPath_within rooted cleaned covers (sound entry member) script
    · unfold Site.aliased at done
      dsimp only at done
      split at done
      · cases done
      split at done <;> cases done
      rename_i kind
      cases named
      rw [rooted]
      exact ⟨entry.realname, .alias member kind, alias_within cleaned covers (sound entry member)⟩
  · split at done
    · cases done
    rename_i file unaliased
    have same : target.pathname = some file := by
      unfold Site.document at done
      split at done
      · cases done
        rfl
      split at done <;> cases done
      rfl
    rw [same] at named
    cases named
    exact unaliased_within rooted cleaned unaliased

/-! ## `init_get` and `init_cgi` -/

/-- What the server opens for a request: it executes a file, sends it or lists a directory. -/
def opened : Fate → Option (List UInt8)
  | .executed path => some path
  | .served path => some path
  | .listed path => some path
  | _ => none

/-- The name of the index of a directory is one name. -/
def PlainIndex (site : Site) : Prop := ∀ index ∈ site.directoryIndex, 47 ∉ index

/-- `gunzip` is given a file with this suffix. -/
theorem gz_plain : 47 ∉ Site.gz := by decide

/-- A number has no slash. -/
theorem intText_plain (value : Int) : 47 ∉ intText value := by
  have digits : ∀ number : Nat, 47 ∉ decimal number := by
    intro number member
    have digit := isDigit_of_mem_decimal member
    revert digit
    decide
  unfold intText
  split
  · intro member
    rcases List.mem_cons.mp member with minus | later
    · revert minus
      decide
    · exact digits _ later
  · exact digits _

/-- Nor has the name of an index that the server makes. -/
theorem cacheName_plain (site : Site) (path : List UInt8) : 47 ∉ site.cacheName path := by
  intro member
  rcases List.mem_append.mp member with front | later
  · rcases List.mem_append.mp front with word | device
    · revert word
      decide
    · exact intText_plain _ device
  · rcases List.mem_cons.mp later with dot | node
    · revert dot
      decide
    · exact intText_plain _ node

/-- A path name is beneath a place that the server serves from. -/
def Confined (site : Site) (req : UriRequest) (file : List UInt8) : Prop :=
  ∃ base, Base site req base ∧ Beneath base file

/-- What is sent instead of an index is the listing, or lies in the directory of
`DirectoryCache`. -/
theorem getListing_confined {site : Site} {req : UriRequest} {base path file : List UInt8}
    (configured : Base site req base) (within : Within base path)
    (reached : opened (site.getListing path) = some file) : Confined site req file := by
  unfold Site.getListing at reached
  split at reached
  · cases reached
    exact ⟨base, configured, within.beneath⟩
  split at reached
  · rename_i cachedir cache
    unfold Site.getCachedirFile at reached
    split at reached
    · cases reached
    split at reached
    · cases reached
    · cases reached
      have inside : Within cachedir (site.cacheFile cachedir path) :=
        .inr ⟨cachedir, _, rfl, rfl, Cleaned.single (cacheName_plain site path)⟩
      exact ⟨cachedir, .cache cache, inside.beneath⟩
  · cases reached

/-- `get_dir` stays beneath the base, but for an index that it makes. -/
theorem getDir_confined {site : Site} {req : UriRequest} {base path file : List UInt8}
    (index : PlainIndex site) (configured : Base site req base) (within : Within base path)
    (slash : path.getLast? = some 47) (reached : opened (site.getDir path) = some file) :
    Confined site req file := by
  unfold Site.getDir at reached
  split at reached
  · exact getListing_confined configured within reached
  rename_i name chosen
  have plain : 47 ∉ name := index name chosen
  have inside : Within base (path ++ name) := within.into slash plain
  split at reached
  · cases reached
    exact ⟨base, configured, inside.beneath⟩
  · cases reached
  · cases reached
  · split at reached
    · cases reached
      have both : 47 ∉ name ++ Site.gz := by
        intro member
        exact (List.mem_append.mp member).elim plain gz_plain
      rw [List.append_assoc]
      exact ⟨base, configured, (within.into slash both).beneath⟩
    · exact getListing_confined configured within reached

/-- `init_get` stays beneath the base, but for an index that it makes. -/
theorem initGet_confined {site : Site} {req : UriRequest} {base path file : List UInt8}
    {target : Target} (index : PlainIndex site) (configured : Base site req base)
    (within : Within base path) (named : target.pathname = some path)
    (reached : opened (site.initGet target) = some file) : Confined site req file := by
  unfold Site.initGet at reached
  rw [named] at reached
  dsimp only at reached
  split at reached
  · split at reached <;> cases reached
    exact ⟨base, configured, within.beneath_append gz_plain fun _ => rfl⟩
  · cases reached
  · cases reached
  · split at reached
    · cases reached
    rename_i slash
    exact getDir_confined index configured within (Decidable.not_not.mp slash) reached
  · cases reached
    exact ⟨base, configured, within.beneath⟩

/-- `init_cgi` stays beneath the base. -/
theorem initCgi_confined {site : Site} {req : UriRequest} {base path file : List UInt8}
    {target : Target} (configured : Base site req base) (within : Within base path)
    (named : target.pathname = some path) (reached : opened (Site.initCgi target) = some file) :
    Confined site req file := by
  unfold Site.initCgi at reached
  rw [named] at reached
  dsimp only at reached
  refine ⟨base, configured, ?_⟩
  split at reached
  · cases reached
    exact within.beneath
  split at reached <;> cases reached
  · exact within.beneath
  · exact within.beneath

/-- The end of `process_header_end` stays beneath the base, but for an index that it makes. -/
theorem dispatch_confined {site : Site} {req : UriRequest} {target : Target} {file : List UInt8}
    (index : PlainIndex site)
    (places : ∀ path, target.pathname = some path → ∃ base, Base site req base ∧ Within base path)
    (reached : opened (site.dispatch req target) = some file) : Confined site req file := by
  cases named : target.pathname with
  | none =>
    unfold Site.dispatch Site.initCgi Site.initGet at reached
    rw [named] at reached
    split at reached <;> cases reached
  | some path =>
    obtain ⟨base, configured, within⟩ := places path named
    unfold Site.dispatch at reached
    split at reached
    · exact initCgi_confined configured within named reached
    · exact initGet_confined index configured within named reached

/-! ## All requests -/

/-- The entry that is looked up is one of the table. -/
theorem entryOf_mem {site : Site} {uri : List UInt8} {entry : HttpUri}
    (looked : site.entryOf uri = some entry) : entry ∈ site.httpUri := by
  unfold Site.entryOf at looked
  split at looked
  · exact List.mem_of_head? looked
  · exact (httpUriSearch_some looked).1

/-- What follows the login stays beneath the places that the server serves from. -/
theorem handle_confined {site : Site} {req : UriRequest} {target : Target} {entry : HttpUri}
    {ret : Int} {file : List UInt8} (index : PlainIndex site) (member : entry ∈ site.httpUri)
    (places : ∀ path, target.pathname = some path → ∃ base, Base site req base ∧ Within base path)
    (reached : opened (site.handle req target entry ret) = some file) :
    Confined site req file := by
  unfold Site.handle at reached
  split at reached
  · rename_i setter sets
    split at reached
    · cases reached
    · cases reached
    · rename_i path named
      refine dispatch_confined index (fun other same => ?_) reached
      cases same
      exact ⟨path, .handler member sets named, .inl rfl⟩
  · split at reached
    · cases reached
    · exact dispatch_confined index places reached

/-- A place for the request with another path is one for the request. -/
theorem Base.of_withPath {site : Site} {req : UriRequest} {uri base : List UInt8}
    (place : Base site (Site.withPath req uri) base) : Base site req base := by
  cases place with
  | «alias» member kind => exact .alias member kind
  | root configured plain => exact .root configured plain
  | host configured virtual => exact .host configured virtual
  | user configured found => exact .user configured found
  | cache configured => exact .cache configured
  | handler member sets named => exact .handler member sets named

/-- Whatever a request asks for, what the server executes, sends or lists is beneath an alias of the
configuration, the document root, the directory of a user or of `DirectoryCache`, or beneath what
a handler names for it. -/
theorem request_confined {build : Build} {site : Site} {req : UriRequest} {visit : Visit}
    {file : List UInt8} (sound : SoundAliases site) (index : PlainIndex site)
    (reached : opened (site.processHeaderEnd build req visit).1 = some file) :
    ∃ base, Base site req base ∧ Beneath base file := by
  unfold Site.processHeaderEnd at reached
  split at reached
  · cases reached
  rename_i target resolved
  have translated : ∃ uri, site.translateUri (Site.withPath req (cleanPathname uri)) =
      .ok target := by
    unfold Site.resolve Site.pathOf at resolved
    cases raw : unescapeUri req.requestUri with
    | none =>
      rw [raw] at resolved
      cases resolved
    | some uri =>
      rw [raw] at resolved
      exact ⟨uri, resolved⟩
  obtain ⟨uri, done⟩ := translated
  obtain ⟨rel, whole, cleaned⟩ := cleanPathname_slash (Site.translateUri_rooted done)
  have places : ∀ path, target.pathname = some path →
      ∃ base, Base site req base ∧ Within base path := by
    intro path named
    obtain ⟨base, place, within⟩ := translateUri_within sound whole cleaned done named
    exact ⟨base, place.of_withPath, within⟩
  split at reached
  · exact dispatch_confined index places reached
  rename_i entry looked
  have member : entry ∈ site.httpUri :=
    entryOf_mem ((Site.translateUri_entry done).symm.trans looked)
  split at reached
  · cases reached
  split at reached
  · cases reached
  split at reached
  · cases reached
  · exact handle_confined index member places reached

/-- A request for a script with steps up in its path. -/
def climbingRequest : UriRequest :=
  ⟨.get, false, ascii "/cgi-bin/../..//./format.cgi/x", [], [], []⟩

/-- Steps up in the path of a script are passed over. -/
theorem request_confined_script :
    opened (Site.formatSite.processHeaderEnd .small climbingRequest ⟨.ok, 0, 0⟩).1 =
        some (ascii "/opt/ipnc/cgi-bin/format.cgi") ∧
      ∃ base, Base Site.formatSite climbingRequest base ∧ Beneath base (ascii "/opt/ipnc/cgi-bin/format.cgi") := by
  have sound : SoundAliases Site.formatSite := by
    intro entry member
    have same := List.eq_of_mem_singleton member
    rw [same]
    exact fun _ => by decide
  have index : PlainIndex Site.formatSite := by
    intro name configured
    rw [← Option.some.inj configured]
    decide
  have reached : opened (Site.formatSite.processHeaderEnd .small climbingRequest ⟨.ok, 0, 0⟩).1 =
      some (ascii "/opt/ipnc/cgi-bin/format.cgi") := rfl
  exact ⟨reached, request_confined sound index reached⟩

end BoaIpcam.DocumentRoot
