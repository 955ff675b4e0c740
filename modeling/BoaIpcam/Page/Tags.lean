import BoaIpcam.Uri.Dispatch

/-!
# Tags of a page

A page may hold tags `<%name.sub%>`. `strrfind` of `get.c` finds the next one: the first `%>`
after a `<%`, together with the last `<%` before it. `TranslateWebPara` of `web_translate.c`
looks a name up in `HttpArgument` and calls its handler, which writes a text to the page.

`splitPage` says what the tags of a page are without positions: the texts in front of them and
what stands between their brackets.
-/
namespace BoaIpcam

/-! ## Handlers -/

/-- What a handler does at its target: it writes a text with its NUL and returns the length, or
returns `-1` after it has written something or nothing. -/
inductive Para where
  | text (value : List UInt8)
  | refused (scribble : List UInt8)
deriving DecidableEq, Repr

/-- The bytes written to the target. -/
def Para.written : Para → List UInt8
  | .text value => value ++ [0]
  | .refused scribble => scribble

/-- The value returned. -/
def Para.size : Para → Int
  | .text value => value.length
  | .refused _ => -1

/-- An entry of `HttpArgument`. -/
structure HtmlArgument where
  /-- The name. -/
  name : List UInt8
  /-- The handler. -/
  handler : List UInt8 → Para
  /-- Who may see the value. -/
  authority : Nat

/-- The search of `TranslateWebPara` on the chains that `arg_hash_table_init` makes. -/
def htmlArgumentSearch (table : List HtmlArgument) (para : List UInt8) : Option HtmlArgument :=
  hashSearch HtmlArgument.name table (fun left right => decide (StrCaseEq left right)) para

/-- `TranslateWebPara`. -/
def translateWebPara (table : List HtmlArgument) (authority : Nat) (para subpara : List UInt8) :
    Para :=
  match htmlArgumentSearch table para with
  | none => .refused []
  | some htmp => if htmp.authority < authority then .refused [] else htmp.handler subpara

/-- The only entry of a table is found under its name, and called when its authority allows. -/
theorem translateWebPara_single (argument : HtmlArgument) {authority : Nat} (subpara : List UInt8)
    (allowed : authority ≤ argument.authority) :
    translateWebPara [argument] authority argument.name subpara = argument.handler subpara := by
  have found : htmlArgumentSearch [argument] argument.name = some argument := by
    rw [htmlArgumentSearch, hashSearch_eq]
    simp
  rw [translateWebPara, found]
  exact if_neg (Nat.not_lt.mpr allowed)

/-! ## Finding a tag -/

/-- The inner loop of `strrfind`, from a position behind the `<%` that was seen last. -/
def strrfindClose : Nat → Nat → List UInt8 → Option (Nat × Nat)
  | _, _, [] => none
  | start, position, 37 :: 62 :: _ => some (start, position)
  | _, position, 60 :: 37 :: rest => strrfindClose position (position + 2) rest
  | start, position, _ :: rest => strrfindClose start (position + 1) rest

/-- The outer loop of `strrfind`. -/
def strrfindFrom : Nat → List UInt8 → Option (Nat × Nat)
  | _, [] => none
  | position, 60 :: 37 :: rest => strrfindClose position (position + 2) rest
  | position, _ :: rest => strrfindFrom (position + 1) rest

/-- `strrfind`: the positions of the brackets of the next tag. -/
def strrfind (strdata : List UInt8) : Option (Nat × Nat) := strrfindFrom 0 strdata

example : strrfind (ascii "a<%b<%c.d%>e") = some (4, 9) := by decide

/-! ## The tags of a page -/

/-- A tag with the text in front of it. -/
structure Tag where
  /-- The text in front of the tag. -/
  before : List UInt8
  /-- What stands between its brackets. -/
  inner : List UInt8
deriving DecidableEq, Repr

/-- The tag as it stands in the page. -/
def Tag.source (tag : Tag) : List UInt8 := 60 :: 37 :: tag.inner ++ [37, 62]

/-- The tags of a text and what follows the last one. The text that was read is in front of a
tag, up to a `<%` that may begin one. -/
def splitFrom : List UInt8 → Option (List UInt8) → List UInt8 → List Tag × List UInt8
  | before, none, [] => ([], before)
  | before, some inner, [] => ([], before ++ 60 :: 37 :: inner)
  | before, none, 60 :: 37 :: rest => splitFrom before (some []) rest
  | before, none, c :: rest => splitFrom (before ++ [c]) none rest
  | before, some inner, 37 :: 62 :: rest =>
    (⟨before, inner⟩ :: (splitFrom [] none rest).1, (splitFrom [] none rest).2)
  | before, some inner, 60 :: 37 :: rest => splitFrom (before ++ 60 :: 37 :: inner) (some []) rest
  | before, some inner, c :: rest => splitFrom before (some (inner ++ [c])) rest

/-- The tags of a page and what follows the last one. -/
def splitPage (page : List UInt8) : List Tag × List UInt8 := splitFrom [] none page

example : splitPage (ascii "a<%b<%c.d%>e") =
    ([⟨ascii "a<%b", ascii "c.d"⟩], ascii "e") := by decide

/-- What the next tag of a page is: none, or the first tag of the page. -/
inductive NextTag (page : List UInt8) : Option (Nat × Nat) → List Tag × List UInt8 → Prop
  | absent : NextTag page none ([], page)
  | found (tag : Tag) (rest : List UInt8) (whole : page = tag.before ++ tag.source ++ rest) :
    NextTag page (some (tag.before.length, tag.before.length + 2 + tag.inner.length))
      (tag :: (splitPage rest).1, (splitPage rest).2)

/-- The search for the next tag at a place of a page: the outer loop before a `<%` was seen, the
inner loop after it. -/
def strrfindAt (before : List UInt8) (text : List UInt8) : Option (List UInt8) → Option (Nat × Nat)
  | none => strrfindFrom before.length text
  | some inner => strrfindClose before.length (before.length + 2 + inner.length) text

/-- The text of the page up to that place. -/
def textBefore (before : List UInt8) : Option (List UInt8) → List UInt8
  | none => before
  | some inner => before ++ 60 :: 37 :: inner

/-- Both loops find the first tag of the page. -/
theorem strrfindAt_next (before text : List UInt8) (mode : Option (List UInt8)) :
    NextTag (textBefore before mode ++ text) (strrfindAt before text mode)
      (splitFrom before mode text) := by
  fun_induction splitFrom before mode text with
  | case1 before => 
    simp only [textBefore, strrfindAt, strrfindFrom, List.append_nil]
    exact .absent
  | case2 before inner =>
    simp only [textBefore, strrfindAt, strrfindClose, List.append_nil]
    exact .absent
  | case3 before rest ih =>
    simpa [textBefore, strrfindAt, strrfindFrom] using ih
  | case4 before c rest notOpen ih =>
    simp only [textBefore, strrfindAt] at ih ⊢
    rw [strrfindFrom]
    · simpa using ih
    · exact notOpen
  | case5 before inner rest ih =>
    simp only [textBefore, strrfindAt, strrfindClose]
    exact .found ⟨before, inner⟩ rest (by simp [Tag.source])
  | case6 before inner rest ih =>
    simp only [textBefore, strrfindAt, strrfindClose] at ih ⊢
    simpa [Nat.add_comm, Nat.add_left_comm, Nat.add_assoc] using ih
  | case7 before inner c rest notClose notOpen ih =>
    simp only [textBefore, strrfindAt] at ih ⊢
    rw [strrfindClose]
    · simpa [Nat.add_assoc] using ih
    · exact notClose
    · exact notOpen

/-- A page has no tag and `strrfind` finds none, or `strrfind` finds its first tag. -/
theorem strrfind_cases (page : List UInt8) :
    (strrfind page = none ∧ splitPage page = ([], page)) ∨
      ∃ tag rest, page = tag.before ++ tag.source ++ rest ∧
        strrfind page = some (tag.before.length, tag.before.length + 2 + tag.inner.length) ∧
        splitPage page = (tag :: (splitPage rest).1, (splitPage rest).2) := by
  have next : NextTag page (strrfind page) (splitPage page) := strrfindAt_next [] page none
  generalize strrfind page = found at next
  generalize splitPage page = parts at next
  cases next with
  | absent => exact Or.inl ⟨rfl, rfl⟩
  | found tag rest whole => exact Or.inr ⟨tag, rest, whole, rfl, rfl⟩

end BoaIpcam
