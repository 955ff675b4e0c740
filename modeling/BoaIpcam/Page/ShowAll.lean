import BoaIpcam.Page.Tags
import Mathlib.Data.List.GetD

/-!
# The page of all values

`ShowAllWebValue` of `web_translate.c` writes one line `name=value` for each entry of
`HttpArgument` that the authority of a request permits. It looks for room before the name and
again before the value, both times for the text and one byte more. Behind a name that byte is the
NUL. Behind a value it is the line feed, and the NUL has no room of its own.
-/
namespace BoaIpcam.ShowAll

/-! ## The function -/

/-- An entry of `HttpArgument` as this function calls it: the handler may be missing, and it gets
`buf`, which has 1024 bytes. An entry is called once at most, so what its handler does is the
value of a function. -/
structure Argument where
  /-- The name. -/
  name : List UInt8
  /-- The handler, if there is one. -/
  handler : Option (List UInt8 → Para)
  /-- Who may see the value. -/
  authority : Nat
  /-- The name has no NUL. -/
  nameClean : 0 ∉ name
  /-- The name and the equals sign fit `buf` with a NUL. -/
  nameShort : name.length ≤ 1022
  /-- A value has no NUL. -/
  textClean : ∀ call ∈ handler, ∀ subpara value, call subpara = .text value → 0 ∉ value
  /-- A value fits `buf`. -/
  textShort : ∀ call ∈ handler, ∀ subpara value, call subpara = .text value → value.length ≤ 1023

/-- The memory from `data` on, how many of its bytes have been written to, `total_size`, and
whether the page was cut. -/
structure Page where
  /-- The memory from `data` on. -/
  memory : Nat → UInt8
  /-- How many bytes were written to. -/
  extent : Nat
  /-- `total_size`. -/
  totalSize : Nat
  /-- Whether the page was cut. -/
  isCut : Bool

/-- Nothing is written yet. -/
def Page.start (memory : Nat → UInt8) : Page := ⟨memory, 0, 0, false⟩

/-- The memory after `sprintf(data+offset, "%s", text)`. -/
def store (memory : Nat → UInt8) (offset : Nat) (text : List UInt8) (index : Nat) : UInt8 :=
  if index < offset then memory index
  else if index ≤ offset + text.length then text.getD (index - offset) 0
  else memory index

/-- `total_size += sprintf(data+total_size, "%s", text)`. -/
def Page.add (page : Page) (text : List UInt8) : Page :=
  { page with
    memory := store page.memory page.totalSize text
    extent := max page.extent (page.totalSize + text.length + 1)
    totalSize := page.totalSize + text.length }

/-- The text that replaces a page without room. -/
def notEnough : List UInt8 := ascii "Not enogh size to show"

/-- `total_size = sprintf(data, "Not enogh size to show")` and the `break`. -/
def Page.cut (page : Page) : Page :=
  { memory := store page.memory 0 notEnough
    extent := max page.extent (notEnough.length + 1)
    totalSize := notEnough.length
    isCut := true }

/-- The text in `buf` after a handler. -/
def shownValue : Para → List UInt8
  | .text value => value
  | .refused _ => ascii "Error return"

/-- The first text of an entry. -/
def Argument.heading (argument : Argument) : List UInt8 := argument.name ++ ascii "="

/-- The loop of `ShowAllWebValue`. -/
def showAllWebValue (authority maxSize : Nat) : List Argument → Page → Page
  | [], page => page
  | htmp :: rest, page =>
    if htmp.authority < authority then showAllWebValue authority maxSize rest page
    else
      match htmp.handler with
      | none => showAllWebValue authority maxSize rest page
      | some handler =>
        if maxSize < page.totalSize + htmp.heading.length + 1 then page.cut
        else
          let page := page.add htmp.heading
          let value := shownValue (handler [])
          if maxSize < page.totalSize + value.length + 1 then page.cut
          else showAllWebValue authority maxSize rest (page.add (value ++ [10]))

/-! ## What is asked -/

/-- The line of an entry that is permitted and has a handler. -/
def Argument.line (authority : Nat) (htmp : Argument) : Option (List UInt8) :=
  if htmp.authority < authority then none
  else htmp.handler.map fun handler => htmp.heading ++ (shownValue (handler []) ++ [10])

/-- The lines of the permitted entries. -/
def permittedLines (authority : Nat) (table : List Argument) : List (List UInt8) :=
  table.filterMap (Argument.line authority)

/-- The C string at the front of a memory. -/
def IsText (memory : Nat → UInt8) (text : List UInt8) : Prop :=
  0 ∉ text ∧ (∀ index < text.length, memory index = text.getD index 0) ∧ memory text.length = 0

/-- The page is as it should be: at most `max_size` bytes are written, the size is that of the
text, and a text that is not cut consists of the lines. -/
structure Page.Shown (maxSize : Nat) (lines : List (List UInt8)) (page : Page) : Prop where
  /-- No more bytes are written than there is room. -/
  inside : page.extent ≤ maxSize
  /-- The size is that of the text. -/
  length : ∃ text, IsText page.memory text ∧ page.totalSize = text.length
  /-- A page that is not cut has all lines. -/
  whole : page.isCut = false → IsText page.memory lines.flatten

/-- Some first lines fill the buffer to its last byte, so that their NUL has no room. -/
def ExactFit (maxSize : Nat) (lines : List (List UInt8)) : Prop :=
  ∃ count < lines.length, (lines.take (count + 1)).flatten.length = maxSize

/-! ## Storing a text -/

/-- The memory below a text is left as it was. -/
theorem store_below (memory : Nat → UInt8) (text : List UInt8) {offset index : Nat}
    (below : index < offset) : store memory offset text index = memory index := if_pos below

/-- A text is stored with its NUL. -/
theorem store_text (memory : Nat → UInt8) (offset : Nat) {text : List UInt8} {index : Nat}
    (within : index ≤ text.length) :
    store memory offset text (offset + index) = text.getD index 0 := by
  have notBelow : ¬ offset + index < offset := by omega
  rw [store, if_neg notBelow, if_pos (Nat.add_le_add_left within offset), Nat.add_sub_cancel_left]

/-- The NUL behind a text. -/
theorem store_end (memory : Nat → UInt8) (offset : Nat) (text : List UInt8) :
    store memory offset text (offset + text.length) = 0 := by
  rw [store_text memory offset (Nat.le_refl _)]
  exact List.getD_eq_default _ _ (Nat.le_refl _)

/-- Two texts stored one behind the other are one text. -/
theorem store_store (memory : Nat → UInt8) (offset : Nat) (first second : List UInt8) :
    store (store memory offset first) (offset + first.length) second =
      store memory offset (first ++ second) := by
  funext index
  have length : (first ++ second).length = first.length + second.length := List.length_append
  by_cases below : index < offset
  · rw [store_below _ _ (by omega), store_below _ _ below, store_below _ _ below]
  · obtain ⟨index, rfl⟩ := Nat.exists_eq_add_of_le (Nat.not_lt.mp below)
    by_cases inFirst : index < first.length
    · rw [store_below _ _ (by omega), store_text _ _ (by omega), store_text _ _ (by omega),
        List.getD_append _ _ _ _ inFirst]
    · obtain ⟨index, rfl⟩ := Nat.exists_eq_add_of_le (Nat.not_lt.mp inFirst)
      by_cases inSecond : index ≤ second.length
      · rw [← Nat.add_assoc, store_text _ _ inSecond, Nat.add_assoc, store_text _ _ (by omega),
          List.getD_append_right _ _ _ _ (Nat.le_add_right _ _), Nat.add_sub_cancel_left]
      · rw [store, store, store]
        rw [if_neg (by omega), if_neg (by omega), if_neg (by omega), if_neg (by omega),
          if_neg (by omega), if_neg (by omega)]

/-- Two texts added one behind the other are one text. -/
theorem Page.add_add (page : Page) (first second : List UInt8) :
    (page.add first).add second = page.add (first ++ second) := by
  have length : (first ++ second).length = first.length + second.length := List.length_append
  have size : page.totalSize + first.length + second.length =
      page.totalSize + (first ++ second).length := by omega
  have extent : max (max page.extent (page.totalSize + first.length + 1))
      (page.totalSize + (first ++ second).length + 1) =
        max page.extent (page.totalSize + (first ++ second).length + 1) := by omega
  rw [Page.add, Page.add, Page.add]
  simp only [store_store, size, extent]

/-- The page begins with a text of the size that is remembered. -/
structure Page.Begins (page : Page) (text : List UInt8) : Prop where
  /-- The text has no NUL. -/
  clean : 0 ∉ text
  /-- The text is there. -/
  bytes : ∀ index < text.length, page.memory index = text.getD index 0
  /-- Its size is remembered. -/
  size : page.totalSize = text.length

/-- A page begins with the text that was added last behind the text that was there. -/
theorem Page.Begins.add {page : Page} {text added : List UInt8} (begins : page.Begins text)
    (clean : 0 ∉ added) : (page.add added).Begins (text ++ added) := by
  constructor
  · intro zero
    exact (List.mem_append.mp zero).elim begins.clean clean
  · intro index within
    show store page.memory page.totalSize added index = _
    rw [begins.size]
    rw [List.length_append] at within
    by_cases inText : index < text.length
    · rw [store_below _ _ inText, begins.bytes index inText, List.getD_append _ _ _ _ inText]
    · obtain ⟨index, rfl⟩ := Nat.exists_eq_add_of_le (Nat.not_lt.mp inText)
      rw [store_text _ _ (by omega), List.getD_append_right _ _ _ _ (Nat.le_add_right _ _),
        Nat.add_sub_cancel_left]
  · show page.totalSize + added.length = _
    rw [begins.size, List.length_append]

/-- A text that was added is closed by a NUL. -/
theorem Page.add_closed (page : Page) (added : List UInt8) :
    (page.add added).memory (page.add added).totalSize = 0 :=
  store_end page.memory page.totalSize added

/-- A page that is closed where its text ends has that text. -/
theorem Page.Begins.isText {page : Page} {text : List UInt8} (begins : page.Begins text)
    (closed : page.memory page.totalSize = 0) : IsText page.memory text :=
  ⟨begins.clean, begins.bytes, begins.size ▸ closed⟩

/-- A page that is cut has the text that says so. -/
theorem Page.cut_text (page : Page) : IsText page.cut.memory notEnough := by
  have clean : 0 ∉ notEnough := by decide
  have bytes : ∀ index ≤ notEnough.length, page.cut.memory index = notEnough.getD index 0 := by
    intro index within
    have stored := store_text page.memory 0 within
    rw [Nat.zero_add] at stored
    exact stored
  have closed : page.cut.memory notEnough.length = 0 := by
    rw [bytes _ (Nat.le_refl _)]
    exact List.getD_eq_default _ _ (Nat.le_refl _)
  exact ⟨clean, fun index within => bytes index (Nat.le_of_lt within), closed⟩

/-- The text of a cut page has room. -/
theorem Page.cut_extent {maxSize : Nat} (page : Page) (room : 32 < maxSize) :
    page.cut.extent ≤ maxSize ↔ page.extent ≤ maxSize := by
  have short : notEnough.length = 22 := by decide
  show max page.extent (notEnough.length + 1) ≤ maxSize ↔ _
  omega

/-! ## One entry -/

variable {authority maxSize : Nat}

/-- The heading of an entry has no NUL. -/
theorem Argument.heading_clean (htmp : Argument) : 0 ∉ htmp.heading := by
  intro zero
  have sign : (0 : UInt8) ∉ ascii "=" := by decide
  exact (List.mem_append.mp zero).elim htmp.nameClean sign

/-- The line of an entry has no NUL. -/
theorem Argument.line_clean {htmp : Argument} {line : List UInt8}
    (shown : htmp.line authority = some line) : 0 ∉ line := by
  rw [Argument.line] at shown
  split_ifs at shown with forbidden
  obtain ⟨handler, found, rfl⟩ := Option.map_eq_some_iff.mp shown
  have value : 0 ∉ shownValue (handler []) := by
    cases result : handler [] with
    | text value => exact htmp.textClean handler found [] value result
    | refused scribble =>
      show 0 ∉ ascii "Error return"
      decide
  intro zero
  rcases List.mem_append.mp zero with zero | zero
  · exact htmp.heading_clean zero
  · rcases List.mem_append.mp zero with zero | zero
    · exact value zero
    · exact absurd zero (by decide)

/-- An entry without a line is passed over. -/
theorem showAll_skips {htmp : Argument} (rest : List Argument) (page : Page)
    (hidden : htmp.line authority = none) :
    showAllWebValue authority maxSize (htmp :: rest) page =
      showAllWebValue authority maxSize rest page := by
  rw [Argument.line] at hidden
  by_cases forbidden : htmp.authority < authority
  · rw [showAllWebValue, if_pos forbidden]
  · rw [if_neg forbidden] at hidden
    have missing : htmp.handler = none := Option.map_eq_none_iff.mp hidden
    rw [showAllWebValue, if_neg forbidden]
    simp only [missing]

/-- The line of an entry is added when it has room without its NUL. Else the page is cut, and the
heading may have been added inside the buffer. -/
theorem showAll_line (maxSize : Nat) {htmp : Argument} {line : List UInt8}
    (rest : List Argument) (page : Page)
    (shown : htmp.line authority = some line) :
    (page.totalSize + line.length ≤ maxSize ∧
      showAllWebValue authority maxSize (htmp :: rest) page =
        showAllWebValue authority maxSize rest (page.add line)) ∨
    (maxSize < page.totalSize + line.length ∧ ∃ last : Page,
      (last.extent ≤ maxSize ↔ page.extent ≤ maxSize) ∧
      showAllWebValue authority maxSize (htmp :: rest) page = last.cut) := by
  rw [Argument.line] at shown
  split_ifs at shown with forbidden
  obtain ⟨handler, found, rfl⟩ := Option.map_eq_some_iff.mp shown
  have length : (htmp.heading ++ (shownValue (handler []) ++ [10])).length =
      htmp.heading.length + (shownValue (handler [])).length + 1 := by
    simp [Nat.add_assoc]
  rw [length, showAllWebValue, if_neg forbidden]
  simp only [found]
  by_cases named : maxSize < page.totalSize + htmp.heading.length + 1
  · rw [if_pos named]
    exact .inr ⟨by omega, page, Iff.rfl, rfl⟩
  · rw [if_neg named]
    have headed : (page.add htmp.heading).totalSize = page.totalSize + htmp.heading.length := rfl
    rw [headed]
    by_cases valued : maxSize <
        page.totalSize + htmp.heading.length + (shownValue (handler [])).length + 1
    · rw [if_pos valued]
      have extent : (page.add htmp.heading).extent ≤ maxSize ↔ page.extent ≤ maxSize := by
        show max page.extent (page.totalSize + htmp.heading.length + 1) ≤ maxSize ↔ _
        omega
      exact .inr ⟨by omega, page.add htmp.heading, extent, rfl⟩
    · rw [if_neg valued, Page.add_add]
      exact .inl ⟨by omega, rfl⟩

/-! ## All entries -/

/-- Behind what is on the page already, the NUL of a line has no room exactly when that line fills
the buffer. -/
theorem showAll_inside (table : List Argument) (page : Page) (room : 32 < maxSize) :
    (showAllWebValue authority maxSize table page).extent ≤ maxSize ↔
      page.extent ≤ maxSize ∧ ∀ count < (permittedLines authority table).length,
        page.totalSize + ((permittedLines authority table).take (count + 1)).flatten.length ≠
          maxSize := by
  induction table generalizing page with
  | nil => simp [showAllWebValue, permittedLines]
  | cons htmp rest ih =>
    cases shown : htmp.line authority with
    | none =>
      rw [showAll_skips rest page shown, permittedLines, List.filterMap_cons_none shown]
      exact ih page
    | some line =>
      rw [permittedLines, List.filterMap_cons_some shown]
      have taken (count : Nat) : ((line :: permittedLines authority rest).take
          (count + 1)).flatten.length = line.length +
            ((permittedLines authority rest).take count).flatten.length := by
        rw [List.take_succ_cons, List.flatten_cons, List.length_append]
      change _ ↔ _ ∧ ∀ count < (line :: permittedLines authority rest).length, page.totalSize +
        ((line :: permittedLines authority rest).take (count + 1)).flatten.length ≠ maxSize
      simp only [taken, List.length_cons]
      rcases showAll_line maxSize rest page shown with ⟨fits, next⟩ | ⟨long, last, extent, next⟩
      · have reach : (page.add line).extent =
            max page.extent (page.totalSize + line.length + 1) := rfl
        have added : (page.add line).extent ≤ maxSize ↔
            page.extent ≤ maxSize ∧ page.totalSize + line.length ≠ maxSize := by omega
        have size : (page.add line).totalSize = page.totalSize + line.length := rfl
        rw [next, ih, added, size, and_assoc]
        refine and_congr_right fun _ => ?_
        constructor
        · intro ⟨first, later⟩ count below
          cases count with
          | zero => exact first
          | succ count =>
            have exact' := later count (by omega)
            omega
        · intro all
          refine ⟨all 0 (Nat.succ_pos _), fun count below => ?_⟩
          have exact' := all (count + 1) (by omega)
          omega
      · rw [next, Page.cut_extent last room, extent]
        refine ⟨fun inside => ⟨inside, fun count _ => ?_⟩, fun ⟨inside, _⟩ => inside⟩
        omega

/-- A page that begins with a text ends with a text of the size that is returned. When nothing is
cut it is the text that was there and the lines. -/
theorem showAll_text (maxSize : Nat) (table : List Argument) {page : Page} {text : List UInt8}
    (begins : page.Begins text) (whole : page.isCut = false)
    (closed : permittedLines authority table ≠ [] ∨ page.memory page.totalSize = 0) :
    ∃ shown, IsText (showAllWebValue authority maxSize table page).memory shown ∧
      (showAllWebValue authority maxSize table page).totalSize = shown.length ∧
      ((showAllWebValue authority maxSize table page).isCut = false →
        shown = text ++ (permittedLines authority table).flatten) := by
  induction table generalizing page text with
  | nil =>
    have nul : page.memory page.totalSize = 0 := closed.resolve_left fun some => some rfl
    exact ⟨text, begins.isText nul, begins.size, fun _ => (List.append_nil text).symm⟩
  | cons htmp rest ih =>
    cases shown : htmp.line authority with
    | none =>
      have lines : permittedLines authority (htmp :: rest) = permittedLines authority rest :=
        List.filterMap_cons_none shown
      rw [lines] at closed ⊢
      rw [showAll_skips rest page shown]
      exact ih begins whole closed
    | some line =>
      have lines : permittedLines authority (htmp :: rest) =
          line :: permittedLines authority rest := List.filterMap_cons_some shown
      rw [lines]
      rcases showAll_line maxSize rest page shown with ⟨fits, next⟩ | ⟨long, last, extent, next⟩
      · rw [next, List.flatten_cons, ← List.append_assoc]
        exact ih (begins.add (Argument.line_clean shown)) whole (.inr (page.add_closed line))
      · rw [next]
        exact ⟨notEnough, last.cut_text, rfl, fun uncut => absurd uncut (by simp [Page.cut])⟩

/-- Without a permitted entry nothing is written. -/
theorem showAll_empty (maxSize : Nat) {table : List Argument} (page : Page)
    (none : permittedLines authority table = []) :
    showAllWebValue authority maxSize table page = page := by
  induction table with
  | nil => rfl
  | cons htmp rest ih =>
    have hidden : ∀ argument ∈ htmp :: rest, argument.line authority = .none :=
      List.filterMap_eq_nil_iff.mp none
    rw [showAll_skips rest page (hidden htmp List.mem_cons_self)]
    apply ih
    exact List.filterMap_eq_nil_iff.mpr fun argument there => hidden argument (.tail _ there)

/-- A memory has one text. -/
theorem IsText.length_le {memory : Nat → UInt8} {first second : List UInt8}
    (left : IsText memory first) (right : IsText memory second) :
    first.length ≤ second.length := by
  by_contra longer
  have within : second.length < first.length := by omega
  have member : first.getD second.length 0 ∈ first := by
    rw [List.getD_eq_getElem _ _ within]
    exact List.getElem_mem within
  have zero : first.getD second.length 0 = 0 := (left.2.1 _ within).symm.trans right.2.2
  exact left.1 (zero ▸ member)

/-- For every table, authority and buffer of more than 32 bytes, the page is as it should be exactly
when no first lines fill the buffer to its last byte, and some entry is permitted or the buffer
begins with a NUL. -/
theorem show_all_exact_iff (table : List Argument) (authority : Nat) (memory : Nat → UInt8)
    {maxSize : Nat} (room : 32 < maxSize) :
    (showAllWebValue authority maxSize table (.start memory)).Shown maxSize
        (permittedLines authority table) ↔
      ¬ ExactFit maxSize (permittedLines authority table) ∧
        (permittedLines authority table ≠ [] ∨ memory 0 = 0) := by
  have inside : (showAllWebValue authority maxSize table (.start memory)).extent ≤ maxSize ↔
      ¬ ExactFit maxSize (permittedLines authority table) := by
    have start : (Page.start memory).totalSize = 0 := rfl
    rw [showAll_inside table (.start memory) room, start]
    simp only [Nat.zero_add, ExactFit, not_exists, not_and]
    exact and_iff_right (Nat.zero_le _)
  have begins : (Page.start memory).Begins [] :=
    ⟨List.not_mem_nil, fun _ below => absurd below (Nat.not_lt_zero _), rfl⟩
  constructor
  · intro shown
    refine ⟨inside.mp shown.inside, ?_⟩
    by_contra none
    obtain ⟨empty, garbage⟩ := not_or.mp none
    have page := showAll_empty maxSize (.start memory) (not_not.mp empty)
    obtain ⟨text, isText, size⟩ := shown.length
    rw [page] at isText size
    have nothing : text = [] := List.eq_nil_of_length_eq_zero size.symm
    rw [nothing] at isText
    exact garbage isText.2.2
  · intro ⟨free, closed⟩
    obtain ⟨text, isText, size, whole⟩ := showAll_text maxSize table begins rfl closed
    refine ⟨inside.mpr free, ⟨text, isText, size⟩, fun uncut => ?_⟩
    have lines := whole uncut
    rw [List.nil_append] at lines
    exact lines ▸ isText

/-- An entry whose line has 33 bytes. -/
def longValue : Argument where
  name := [110]
  handler := some fun _ => .text (List.replicate 30 120)
  authority := 0
  nameClean := by decide
  nameShort := Nat.le_of_ble_eq_true rfl
  textClean := by
    intro call member subpara value written
    obtain rfl := Option.mem_some_iff.mp member
    obtain rfl := Para.text.inj written
    exact by decide
  textShort := by
    intro call member subpara value written
    obtain rfl := Option.mem_some_iff.mp member
    obtain rfl := Para.text.inj written
    exact by decide

/-- In a buffer with one byte more the page is as it should be. -/
theorem show_all_exact_longer :
    (showAllWebValue 0 34 [longValue] (.start fun _ => 255)).Shown 34
      (permittedLines 0 [longValue]) := by
  refine (show_all_exact_iff [longValue] 0 (fun _ => 255) (by decide)).mpr ⟨?_, .inl ?_⟩
  · rintro ⟨count, below, fit⟩
    have only : permittedLines 0 [longValue] = [[110, 61] ++ (List.replicate 30 120 ++ [10])] := rfl
    have zero : count = 0 := Nat.lt_one_iff.mp below
    rw [zero, only] at fit
    exact absurd fit (by decide)
  · exact List.cons_ne_nil _ _

/-- A line that fills the buffer has its NUL behind it. -/
theorem show_all_writes_behind :
    ¬ (showAllWebValue 0 33 [longValue] (.start fun _ => 255)).Shown 33
      (permittedLines 0 [longValue]) := by
  intro shown
  have extent : (showAllWebValue 0 33 [longValue] (.start fun _ => 255)).extent = 34 := rfl
  have inside := shown.inside
  omega

end BoaIpcam.ShowAll
