import BoaIpcam.Page.Tags
import BoaIpcam.Lib.Memory

/-!
# Translation of the tags of a page

`init_get` puts a page behind `HTTP_PARSE_LENGTH` free bytes of a buffer, and
`html_argument_parse` moves it to the front of that buffer, translating its tags on the way. The
text that was written and the text that is still to be read are in the same buffer: the distance
between them shrinks with every translation that is longer than its tag.
-/
namespace BoaIpcam

open Buffer

/-! ## The function -/

/-- `HTTP_PARSE_LENGTH`. -/
def httpParseLength : Nat := 8192

/-- The C string at an offset of a buffer. -/
def cString (memory : List UInt8) (offset : Nat) : List UInt8 :=
  (memory.drop offset).takeWhile (· ≠ 0)

/-- The variables of `html_argument_parse`: the buffer, `data`, `result` and `total_size`. -/
structure Parse where
  /-- The buffer. -/
  memory : List UInt8
  /-- The next byte to read. -/
  data : Nat
  /-- The next byte to write. -/
  result : Nat
  /-- `total_size`. -/
  totalSize : Nat

/-- Where one round of the loop writes and what is still to be read: the end of the copy and the
name of the tag, and the end of what the handler wrote, not counting the NUL of a text, and the
text behind the tag. -/
structure Mark where
  /-- The end of the copy. -/
  copied : Nat
  /-- The name of the tag. -/
  name : Nat
  /-- The end of what the handler wrote. -/
  written : Nat
  /-- The text behind the tag. -/
  unread : Nat
deriving DecidableEq, Repr

/-- The round writes nothing at or behind the first byte of the page that is still to be read. -/
def Mark.Behind (mark : Mark) : Prop := mark.copied ≤ mark.name ∧ mark.written ≤ mark.unread

instance (mark : Mark) : Decidable mark.Behind := inferInstanceAs (Decidable (_ ∧ _))

/-- Cut the name of a tag at its first dot: the name, the name behind the dot and the buffer. -/
def cutName (memory : List UInt8) (arg : Nat) :
    Option (List UInt8 × List UInt8 × List UInt8) :=
  match splitAtByte 46 (cString memory arg) with
  | none => some (cString memory arg, [], memory)
  | some (name, sub) => (write memory (arg + name.length) [0]).map fun memory => (name, sub, memory)

/-- How far `result` goes on in a round. -/
def stepSize (len1 len2 : Nat) (size : Int) : Nat := if size < 0 then len2 else len1 + size.toNat

/-- The number of bytes that a handler wrote, without the NUL of a text. -/
def Para.extent : Para → Nat
  | .text value => value.length
  | .refused scribble => scribble.length

/-- The loop of `html_argument_parse` with at most the given number of rounds: the buffer, the
size returned and the marks of the rounds. None when a write leaves the buffer. -/
def htmlArgumentParse (translate : List UInt8 → List UInt8 → Para) :
    Nat → Parse → Option (List UInt8 × Nat × List Mark)
  | 0, _ => none
  | rounds + 1, parse =>
    match strrfind (cString parse.memory parse.data) with
    | none =>
      let size := (cString parse.memory parse.data).length
      (copy size parse.memory parse.result parse.data).map fun memory =>
        (memory, parse.totalSize + size, [])
    | some (first, last) =>
      let len1 := first
      let len2 := last + 2
      (copy len2 parse.memory parse.result parse.data).bind fun memory =>
      (write memory (parse.data + last) [0]).bind fun memory =>
      (cutName memory (parse.data + first + 2)).bind fun (name, sub, memory) =>
      let para := translate name sub
      (write memory (parse.result + len1) para.written).bind fun memory =>
      let step := stepSize len1 len2 para.size
      (htmlArgumentParse translate rounds
        ⟨memory, parse.data + len2, parse.result + step, parse.totalSize + step⟩).map
        fun (memory, totalSize, marks) =>
          (memory, totalSize,
            ⟨parse.result + len2, parse.data + first + 2, parse.result + len1 + para.extent,
              parse.data + len2⟩ :: marks)

/-- The call in `init_get`: the page follows the free bytes and is closed by a NUL. -/
def initGetParse (table : List HtmlArgument) (authority : Nat) (free page : List UInt8) :
    Option (List UInt8 × Nat × List Mark) :=
  htmlArgumentParse (translateWebPara table authority) (page.length + 1)
    ⟨free ++ page ++ [0], httpParseLength, 0, 0⟩

/-! ## What the page becomes -/

/-- The name and the sub-name of a tag. -/
def Tag.names (tag : Tag) : List UInt8 × List UInt8 := (splitAtByte 46 tag.inner).getD (tag.inner, [])

/-- What a tag becomes. -/
def Tag.translated (translate : List UInt8 → List UInt8 → Para) (tag : Tag) : List UInt8 :=
  match translate tag.names.1 tag.names.2 with
  | .text value => value
  | .refused _ => tag.source

/-- Tags and the text behind them, with the tags translated. -/
def assemble (translate : List UInt8 → List UInt8 → Para) (tags : List Tag) (tail : List UInt8) :
    List UInt8 :=
  (tags.flatMap fun tag => tag.before ++ tag.translated translate) ++ tail

/-- The page with its tags translated. -/
def translatePage (translate : List UInt8 → List UInt8 → Para) (page : List UInt8) : List UInt8 :=
  assemble translate (splitPage page).1 (splitPage page).2

/-! ## One round -/

section Round

variable {translate : List UInt8 → List UInt8 → Para}

/-- The string in front of a NUL. -/
theorem cString_append (left : List UInt8) {text : List UInt8} (right : List UInt8)
    (clean : 0 ∉ text) : cString (left ++ (text ++ 0 :: right)) left.length = text := by
  have proper : ∀ c ∈ text, decide (c ≠ 0) = true := by
    intro c member
    exact decide_eq_true fun zero => clean (zero ▸ member)
  rw [cString, List.drop_left, List.takeWhile_append_of_pos proper,
    List.takeWhile_cons_of_neg (by simp), List.append_nil]

/-- What `strchr` finds. -/
theorem splitAtByte_some {mark : UInt8} {text left right : List UInt8}
    (found : splitAtByte mark text = some (left, right)) : text = left ++ mark :: right := by
  induction text generalizing left with
  | nil => simp [splitAtByte] at found
  | cons c text ih =>
    rw [splitAtByte] at found
    by_cases here : c = mark
    · rw [if_pos here] at found
      cases found
      rw [here, List.nil_append]
    · rw [if_neg here] at found
      obtain ⟨⟨before, later⟩, inner, same⟩ := Option.map_eq_some_iff.mp found
      cases same
      rw [ih inner, List.cons_append]

/-- The length of a tag. -/
theorem Tag.source_length (tag : Tag) : tag.source.length = tag.inner.length + 4 := by
  simp [Tag.source]

/-- Cutting the name of a tag yields its names and changes nothing but the name. -/
theorem cutName_inner (left right : List UInt8) {tag : Tag} (clean : 0 ∉ tag.inner) :
    ∃ cut, cut.length = tag.inner.length ∧
      cutName (left ++ (tag.inner ++ 0 :: right)) left.length =
        some (tag.names.1, tag.names.2, left ++ (cut ++ 0 :: right)) := by
  rw [cutName, cString_append left right clean]
  cases split : splitAtByte 46 tag.inner with
  | none => exact ⟨tag.inner, rfl, by simp [Tag.names, split]⟩
  | some parts =>
    obtain ⟨name, sub⟩ := parts
    have inner := splitAtByte_some split
    have place : left.length + name.length = (left ++ name).length := by simp
    have memory : left ++ (tag.inner ++ 0 :: right) =
        (left ++ name) ++ (46 :: (sub ++ 0 :: right)) := by simp [inner]
    refine ⟨name ++ 0 :: sub, by simp [inner], ?_⟩
    simp only [Tag.names, split, Option.getD_some]
    rw [place, memory, write_front _ _ _ (by simp)]
    simp

/-- The copy of a round, when the distance is enough to keep the name of the tag: the text in
front of the tag and the tag are moved, and the name stays where it was. -/
theorem copy_tag (done gap rest : List UInt8) {tag : Tag}
    (room : tag.inner.length + 2 ≤ gap.length) :
    ∃ filler, filler.length + (tag.inner.length + 2) = gap.length ∧
      copy (tag.before.length + 2 + tag.inner.length + 2)
          (done ++ (gap ++ (tag.before ++ tag.source ++ rest))) done.length
          (done.length + gap.length) =
        some (done ++ tag.before ++ (tag.source ++ (filler ++ (tag.inner ++ 37 :: 62 :: rest)))) := by
  have count : tag.before.length + 2 + tag.inner.length + 2 = (tag.before ++ tag.source).length := by
    rw [List.length_append, tag.source_length]
    omega
  have text : ((gap ++ (tag.before ++ tag.source ++ rest)).drop gap.length).take
      (tag.before ++ tag.source).length = tag.before ++ tag.source := by
    rw [List.drop_left, List.take_left]
  have parts : gap ++ (tag.before ++ tag.source ++ rest) =
      (gap ++ (tag.before ++ [60, 37])) ++ (tag.inner ++ 37 :: 62 :: rest) := by
    simp [Tag.source]
  have enough : (tag.before ++ tag.source).length ≤ (gap ++ (tag.before ++ [60, 37])).length := by
    simp only [List.length_append, tag.source_length, List.length_cons, List.length_nil]
    omega
  refine ⟨(gap ++ (tag.before ++ [60, 37])).drop (tag.before ++ tag.source).length, ?_, ?_⟩
  · simp only [List.length_drop, List.length_append, tag.source_length, List.length_cons,
      List.length_nil]
    omega
  · rw [count, copy_front _ _ (by simp only [List.length_append]; omega), text, parts,
      List.drop_append_of_le_length enough]
    simp only [List.append_assoc]

/-- What a round does before it calls the handler: the names are read, and behind the text that
was moved stand as many bytes as the distance and the tag have, the tag first. -/
theorem prepare_tag (done gap rest : List UInt8) {tag : Tag} (clean : 0 ∉ tag.inner)
    (room : tag.inner.length + 2 ≤ gap.length) :
    ∃ middle, middle.length = gap.length + tag.source.length ∧
      middle.take tag.source.length = tag.source ∧
      ∀ {β : Type} (next : List UInt8 × List UInt8 × List UInt8 → Option β),
        ((copy (tag.before.length + 2 + tag.inner.length + 2)
            (done ++ (gap ++ (tag.before ++ tag.source ++ rest))) done.length
            (done.length + gap.length)).bind fun memory =>
          (write memory (done.length + gap.length + (tag.before.length + 2 + tag.inner.length))
            [0]).bind fun memory =>
          (cutName memory (done.length + gap.length + tag.before.length + 2)).bind next) =
        next (tag.names.1, tag.names.2, done ++ tag.before ++ (middle ++ rest)) := by
  obtain ⟨filler, length, copied⟩ := copy_tag done gap rest room
  obtain ⟨cut, same, names⟩ := cutName_inner (done ++ tag.before ++ (tag.source ++ filler))
    (62 :: rest) clean
  have nameAt : done.length + gap.length + tag.before.length + 2 =
      (done ++ tag.before ++ (tag.source ++ filler)).length := by
    simp only [List.length_append, tag.source_length]
    omega
  have closeAt : done.length + gap.length + (tag.before.length + 2 + tag.inner.length) =
      (done ++ tag.before ++ (tag.source ++ filler) ++ tag.inner).length := by
    simp only [List.length_append, tag.source_length]
    omega
  have memory : done ++ tag.before ++ (tag.source ++ (filler ++ (tag.inner ++ 37 :: 62 :: rest))) =
      (done ++ tag.before ++ (tag.source ++ filler) ++ tag.inner) ++ (37 :: 62 :: rest) := by
    simp only [List.append_assoc]
  have closed : write ((done ++ tag.before ++ (tag.source ++ filler) ++ tag.inner) ++
      (37 :: 62 :: rest)) (done ++ tag.before ++ (tag.source ++ filler) ++ tag.inner).length [0] =
      some (done ++ tag.before ++ (tag.source ++ filler) ++ (tag.inner ++ 0 :: 62 :: rest)) := by
    rw [write_front _ _ _ (by simp)]
    simp
  refine ⟨tag.source ++ (filler ++ (cut ++ [0, 62])), ?_, ?_, ?_⟩
  · simp only [List.length_append, tag.source_length, same, List.length_cons, List.length_nil]
    omega
  · rw [List.take_left]
  · intro β next
    rw [copied, Option.bind_some, memory, closeAt, closed, Option.bind_some, nameAt, names,
      Option.bind_some]
    simp

/-- The variables when some text was moved and a page follows it at some distance. -/
def parseAt (done gap page : List UInt8) : Parse :=
  ⟨done ++ (gap ++ (page ++ [0])), done.length + gap.length, done.length, done.length⟩

/-- The page is what the loop reads. -/
theorem parseAt_page (done gap : List UInt8) {page : List UInt8} (clean : 0 ∉ page) :
    cString (parseAt done gap page).memory (parseAt done gap page).data = page := by
  have place : done.length + gap.length = (done ++ gap).length := by rw [List.length_append]
  simp only [parseAt]
  rw [place, ← List.append_assoc]
  exact cString_append (done ++ gap) [] clean

/-- The last round moves the rest of the page. -/
theorem parse_last (rounds : Nat) (done gap : List UInt8) {page : List UInt8} (clean : 0 ∉ page)
    (absent : strrfind page = none) :
    ∃ memory, htmlArgumentParse translate (rounds + 1) (parseAt done gap page) =
        some (memory, (done ++ page).length, []) ∧
      memory.take (done ++ page).length = done ++ page := by
  have moved : copy page.length (done ++ (gap ++ (page ++ [0]))) done.length
      (done.length + gap.length) =
        some (done ++ page ++ (gap ++ (page ++ [0])).drop page.length) := by
    rw [copy_front _ _ (by simp only [List.length_append]; omega), List.drop_left, List.take_left]
  refine ⟨done ++ page ++ (gap ++ (page ++ [0])).drop page.length, ?_, List.take_left⟩
  rw [htmlArgumentParse, parseAt_page done gap clean, absent]
  simp only [parseAt, moved, Option.map_some, List.length_append]

/-- The page that follows starts with some text and a tag. -/
structure TagAhead (tag : Tag) (rest : List UInt8) : Prop where
  /-- There is no NUL. -/
  clean : 0 ∉ tag.before ++ tag.source ++ rest
  /-- The search finds this tag. -/
  found : strrfind (tag.before ++ tag.source ++ rest) =
    some (tag.before.length, tag.before.length + 2 + tag.inner.length)

/-- The mark of a round at a tag, before the handler is known. -/
theorem parse_mark {rounds : Nat} {done gap rest : List UInt8} {tag : Tag}
    (ahead : TagAhead tag rest) {memory : List UInt8} {size : Nat} {marks : List Mark}
    (result : htmlArgumentParse translate (rounds + 1)
      (parseAt done gap (tag.before ++ tag.source ++ rest)) = some (memory, size, marks))
    (behind : ∀ mark ∈ marks, mark.Behind) : tag.inner.length + 2 ≤ gap.length := by
  rw [htmlArgumentParse, parseAt_page done gap ahead.clean, ahead.found] at result
  simp only [Option.bind_eq_some_iff, Option.map_eq_some_iff, Prod.mk.injEq] at result
  obtain ⟨_, -, _, -, _, -, _, -, _, -, -, -, rfl⟩ := result
  have first := (behind _ List.mem_cons_self).1
  simp only [parseAt] at first
  omega

/-- The mark of a round at a tag. -/
def tagMark (done gap : List UInt8) (tag : Tag) (para : Para) : Mark :=
  ⟨done.length + (tag.before.length + 2 + tag.inner.length + 2),
    done.length + gap.length + tag.before.length + 2,
    done.length + tag.before.length + para.extent,
    done.length + gap.length + (tag.before.length + 2 + tag.inner.length + 2)⟩

/-- A round at a tag whose name is kept: what the handler writes goes over the tag and the bytes
up to the rest of the page. -/
theorem parse_tag (translate : List UInt8 → List UInt8 → Para) (rounds : Nat)
    (done gap rest : List UInt8) {tag : Tag} (ahead : TagAhead tag rest)
    (room : tag.inner.length + 2 ≤ gap.length) :
    ∃ middle, middle.length = gap.length + tag.source.length ∧
      middle.take tag.source.length = tag.source ∧
      let para := translate tag.names.1 tag.names.2
      let step := stepSize tag.before.length (tag.before.length + 2 + tag.inner.length + 2) para.size
      htmlArgumentParse translate (rounds + 1)
          (parseAt done gap (tag.before ++ tag.source ++ rest)) =
        (write (done ++ tag.before ++ (middle ++ (rest ++ [0]))) (done ++ tag.before).length
          para.written).bind fun memory =>
        (htmlArgumentParse translate rounds
          ⟨memory, done.length + gap.length + (tag.before.length + 2 + tag.inner.length + 2),
            done.length + step, done.length + step⟩).map
          fun (memory, size, marks) => (memory, size, tagMark done gap tag para :: marks) := by
  have inner : 0 ∉ tag.inner := by
    intro zero
    exact ahead.clean (by simp [Tag.source, zero])
  obtain ⟨middle, length, front, prepared⟩ := prepare_tag done gap (rest ++ [0]) inner room
  refine ⟨middle, length, front, ?_⟩
  have assoc : tag.before ++ tag.source ++ rest ++ [0] =
      tag.before ++ tag.source ++ (rest ++ [0]) := by simp
  rw [htmlArgumentParse, parseAt_page done gap ahead.clean, ahead.found]
  simp only [parseAt, assoc]
  rw [prepared]
  simp only [List.length_append, tagMark]

variable {rounds : Nat} {done gap rest : List UInt8} {tag : Tag}

/-- After a text the loop goes on behind it. -/
theorem step_text (done value : List UInt8) (tag : Tag) :
    done.length + stepSize tag.before.length (tag.before.length + 2 + tag.inner.length + 2)
      value.length = (done ++ tag.before ++ value).length := by
  simp [stepSize, Nat.add_assoc]

/-- A text that leaves a distance is moved in place of its tag. -/
theorem parse_text (ahead : TagAhead tag rest)
    (room : tag.inner.length + 2 ≤ gap.length) {value : List UInt8}
    (translated : translate tag.names.1 tag.names.2 = .text value)
    (short : value.length < gap.length + tag.source.length) :
    ∃ gap', gap'.length = gap.length + tag.source.length - value.length ∧
      htmlArgumentParse translate (rounds + 1)
          (parseAt done gap (tag.before ++ tag.source ++ rest)) =
        (htmlArgumentParse translate rounds (parseAt (done ++ tag.before ++ value) gap' rest)).map
          fun (memory, size, marks) =>
            (memory, size, tagMark done gap tag (.text value) :: marks) := by
  obtain ⟨middle, length, -, parsed⟩ := parse_tag translate rounds done gap rest ahead room
  have source := tag.source_length
  have left : (0 :: middle.drop (value.length + 1)).length =
      gap.length + tag.source.length - value.length := by
    rw [List.length_cons, List.length_drop]
    omega
  refine ⟨0 :: middle.drop (value.length + 1), left, ?_⟩
  have stored : write (done ++ tag.before ++ (middle ++ (rest ++ [0]))) (done ++ tag.before).length
      (value ++ [0]) = some (done ++ tag.before ++ value ++
        (0 :: middle.drop (value.length + 1) ++ (rest ++ [0]))) := by
    rw [write_front _ _ _ (by simp only [List.length_append, List.length_singleton]; omega),
      List.length_append, List.length_singleton,
      List.drop_append_of_le_length (show value.length + 1 ≤ middle.length by omega)]
    simp
  have data : done.length + gap.length + (tag.before.length + 2 + tag.inner.length + 2) =
      (done ++ tag.before ++ value).length + (0 :: middle.drop (value.length + 1)).length := by
    rw [left, List.length_append, List.length_append]
    omega
  have step := step_text done value tag
  simp only [parsed, translated, Para.written, Para.size, stored, Option.bind_some, data, step]
  rfl

/-- A text that takes the whole distance is moved too, but its NUL cuts off the rest of the
page. -/
theorem parse_full (ahead : TagAhead tag rest)
    (room : tag.inner.length + 2 ≤ gap.length) {value : List UInt8}
    (translated : translate tag.names.1 tag.names.2 = .text value)
    (full : value.length = gap.length + tag.source.length) :
    ∃ memory, htmlArgumentParse translate (rounds + 2)
        (parseAt done gap (tag.before ++ tag.source ++ rest)) =
          some (memory, (done ++ tag.before ++ value).length,
            [tagMark done gap tag (.text value)]) ∧
      memory.take (done ++ tag.before ++ value).length = done ++ tag.before ++ value := by
  obtain ⟨middle, length, -, parsed⟩ := parse_tag translate (rounds + 1) done gap rest ahead room
  have source := tag.source_length
  have stored : write (done ++ tag.before ++ (middle ++ (rest ++ [0]))) (done ++ tag.before).length
      (value ++ [0]) =
        some (done ++ tag.before ++ value ++ ([] ++ 0 :: (rest ++ [0]).drop 1)) := by
    have cut : (middle ++ (rest ++ [0])).drop (value.length + 1) = (rest ++ [0]).drop 1 := by
      rw [← List.drop_drop, full, ← length, List.drop_left]
    rw [write_front _ _ _ (by simp only [List.length_append, List.length_singleton]; omega),
      List.length_append, List.length_singleton, cut]
    simp
  have data : done.length + gap.length + (tag.before.length + 2 + tag.inner.length + 2) =
      (done ++ tag.before ++ value).length := by
    rw [List.length_append, List.length_append]
    omega
  have step := step_text done value tag
  have nothing : cString (done ++ tag.before ++ value ++ ([] ++ 0 :: (rest ++ [0]).drop 1))
      (done ++ tag.before ++ value).length = [] :=
    cString_append _ _ List.not_mem_nil
  refine ⟨done ++ tag.before ++ value ++ ([] ++ 0 :: (rest ++ [0]).drop 1), ?_, List.take_left⟩
  simp only [parsed, translated, Para.written, Para.size, stored, Option.bind_some, data, step]
  rw [htmlArgumentParse]
  simp only [nothing]
  rfl

/-- What a refused tag becomes when the handler wrote over its copy. -/
def overlay (scribble source : List UInt8) : List UInt8 :=
  scribble.take source.length ++ source.drop scribble.length

/-- A refused tag is kept but for what the handler wrote. -/
theorem parse_refused (ahead : TagAhead tag rest)
    (room : tag.inner.length + 2 ≤ gap.length) {scribble : List UInt8}
    (translated : translate tag.names.1 tag.names.2 = .refused scribble)
    (short : scribble.length ≤ gap.length + tag.source.length) :
    ∃ gap', gap'.length = gap.length ∧
      htmlArgumentParse translate (rounds + 1)
          (parseAt done gap (tag.before ++ tag.source ++ rest)) =
        (htmlArgumentParse translate rounds
          (parseAt (done ++ tag.before ++ overlay scribble tag.source) gap' rest)).map
          fun (memory, size, marks) =>
            (memory, size, tagMark done gap tag (.refused scribble) :: marks) := by
  obtain ⟨middle, length, front, parsed⟩ := parse_tag translate rounds done gap rest ahead room
  have source := tag.source_length
  have size : (scribble ++ middle.drop scribble.length).length =
      gap.length + tag.source.length := by
    rw [List.length_append, List.length_drop]
    omega
  have kept : (scribble ++ middle.drop scribble.length).take tag.source.length =
      overlay scribble tag.source := by
    rw [List.take_append, ← List.drop_take, front, overlay]
  have stored : write (done ++ tag.before ++ (middle ++ (rest ++ [0]))) (done ++ tag.before).length
      scribble = some (done ++ tag.before ++ overlay scribble tag.source ++
        ((scribble ++ middle.drop scribble.length).drop tag.source.length ++ (rest ++ [0]))) := by
    rw [write_front _ _ _ (by simp only [List.length_append]; omega),
      List.drop_append_of_le_length (show scribble.length ≤ middle.length by omega), ← kept]
    simp only [List.append_assoc]
    rw [← List.append_assoc (List.take _ _), List.take_append_drop]
    simp only [List.append_assoc]
  have left : ((scribble ++ middle.drop scribble.length).drop tag.source.length).length =
      gap.length := by
    rw [List.length_drop, size]
    omega
  have covered : (overlay scribble tag.source).length = tag.source.length := by
    rw [← kept, List.length_take, size]
    omega
  have step : done.length + stepSize tag.before.length
      (tag.before.length + 2 + tag.inner.length + 2) (-1) =
        (done ++ tag.before ++ overlay scribble tag.source).length := by
    rw [stepSize, if_pos (by decide), List.length_append, List.length_append, covered]
    omega
  have data : done.length + gap.length + (tag.before.length + 2 + tag.inner.length + 2) =
      (done ++ tag.before ++ overlay scribble tag.source).length +
        ((scribble ++ middle.drop scribble.length).drop tag.source.length).length := by
    rw [left, List.length_append, List.length_append, covered]
    omega
  refine ⟨_, left, ?_⟩
  simp only [parsed, translated, Para.written, Para.size, stored, Option.bind_some, data, step]
  rfl

end Round

end BoaIpcam
