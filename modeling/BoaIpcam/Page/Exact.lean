import BoaIpcam.Page.Translate

/-!
# When the translation of a page is exact

The rounds of `html_argument_parse` depend on one number, the distance between the text that was
moved and the text that is still to be read. A tag needs a distance of two more than what stands
between its brackets, and a translation may use the distance and the tag up to the last byte: at
that byte its NUL falls on the rest of the page. `Fits` is that condition for all tags of a page;
it is what makes the page come out as `translatePage` says.
-/
namespace BoaIpcam

variable {translate : List UInt8 → List UInt8 → Para}

/-- What is written stays behind what is read, in all rounds at the tags. -/
def Room (translate : List UInt8 → List UInt8 → Para) : Nat → List Tag → Prop
  | _, [] => True
  | gap, tag :: tags =>
    tag.inner.length + 2 ≤ gap ∧
      match translate tag.names.1 tag.names.2 with
      | .text value =>
        value.length ≤ gap + tag.source.length ∧
          (value.length = gap + tag.source.length ∨
            Room translate (gap + tag.source.length - value.length) tags)
      | .refused scribble =>
        scribble.length ≤ gap + tag.source.length ∧ Room translate gap tags

/-- What the rounds leave of the tags and the text behind them. -/
def moved (translate : List UInt8 → List UInt8 → Para) :
    Nat → List Tag → List UInt8 → List UInt8
  | _, [], tail => tail
  | gap, tag :: tags, tail =>
    match translate tag.names.1 tag.names.2 with
    | .text value =>
      tag.before ++ value ++
        if value.length = gap + tag.source.length then []
        else moved translate (gap + tag.source.length - value.length) tags tail
    | .refused scribble =>
      tag.before ++ overlay scribble tag.source ++ moved translate gap tags tail

/-- What the rounds leave of a page. -/
def movedPage (translate : List UInt8 → List UInt8 → Para) (gap : Nat) (page : List UInt8) :
    List UInt8 :=
  moved translate gap (splitPage page).1 (splitPage page).2

/-- A mark at a tag is behind what is read when the name is kept and the handler wrote no more
than the distance and the tag have. -/
theorem tagMark_behind {done gap : List UInt8} {tag : Tag} {para : Para} :
    (tagMark done gap tag para).Behind ↔
      tag.inner.length + 2 ≤ gap.length ∧ para.extent ≤ gap.length + tag.source.length := by
  have source := tag.source_length
  simp only [Mark.Behind, tagMark]
  apply and_congr
  · omega
  · omega

/-- A page that fits is moved as said, and all marks are behind what is read. -/
theorem parse_of_room {rounds : Nat} {done gap page : List UInt8} (clean : 0 ∉ page)
    (enough : page.length < rounds) (room : Room translate gap.length (splitPage page).1) :
    ∃ memory marks, htmlArgumentParse translate rounds (parseAt done gap page) =
        some (memory, (done ++ movedPage translate gap.length page).length, marks) ∧
      memory.take (done ++ movedPage translate gap.length page).length =
        done ++ movedPage translate gap.length page ∧
      ∀ mark ∈ marks, mark.Behind := by
  induction rounds generalizing done gap page with
  | zero => omega
  | succ rounds ih =>
    obtain ⟨absent, split⟩ | ⟨tag, rest, rfl, found, split⟩ := strrfind_cases page
    · obtain ⟨memory, parsed, front⟩ := parse_last rounds done gap clean absent
      have whole : movedPage translate gap.length page = page := by rw [movedPage, split, moved]
      rw [whole]
      exact ⟨memory, [], parsed, front, List.forall_mem_nil _⟩
    · have shorter : rest.length < rounds := by
        have length := tag.source_length
        simp only [List.length_append] at enough
        omega
      have later : 0 ∉ rest := fun zero => clean (List.mem_append_right _ zero)
      rw [split, Room] at room
      obtain ⟨name, room⟩ := room
      cases translated : translate tag.names.1 tag.names.2 with
      | text value =>
        rw [translated] at room
        obtain ⟨short, room⟩ := room
        have behind : (tagMark done gap tag (.text value)).Behind :=
          tagMark_behind.mpr ⟨name, short⟩
        by_cases full : value.length = gap.length + tag.source.length
        · obtain ⟨less, rfl⟩ : ∃ less, rounds = less + 1 := ⟨rounds - 1, by omega⟩
          obtain ⟨memory, parsed, front⟩ :=
            @parse_full translate less done gap rest tag ⟨clean, found⟩ name value translated full
          have whole : done ++ movedPage translate gap.length (tag.before ++ tag.source ++ rest) =
              done ++ tag.before ++ value := by
            rw [movedPage, split]
            simp only [moved, translated, if_pos full, List.append_nil, List.append_assoc]
          rw [whole]
          exact ⟨memory, _, parsed, front, List.forall_mem_singleton.mpr behind⟩
        · obtain ⟨gap', length, parsed⟩ :=
            @parse_text translate rounds done gap rest tag ⟨clean, found⟩ name value translated
              (by omega)
          have fits := room.resolve_left full
          rw [← length] at fits
          obtain ⟨memory, marks, result, front, all⟩ :=
            @ih (done ++ tag.before ++ value) gap' rest later shorter fits
          have whole : done ++ movedPage translate gap.length (tag.before ++ tag.source ++ rest) =
              done ++ tag.before ++ value ++ movedPage translate gap'.length rest := by
            rw [movedPage, split, movedPage]
            simp only [moved, translated, if_neg full, length, List.append_assoc]
          rw [whole, parsed, result]
          exact ⟨memory, _, rfl, front, List.forall_mem_cons.mpr ⟨behind, all⟩⟩
      | refused scribble =>
        rw [translated] at room
        obtain ⟨short, fits⟩ := room
        have behind : (tagMark done gap tag (.refused scribble)).Behind :=
          tagMark_behind.mpr ⟨name, short⟩
        obtain ⟨gap', length, parsed⟩ :=
          @parse_refused translate rounds done gap rest tag ⟨clean, found⟩ name scribble translated
            short
        rw [← length] at fits
        obtain ⟨memory, marks, result, front, all⟩ :=
          @ih (done ++ tag.before ++ overlay scribble tag.source) gap' rest later shorter fits
        have whole : done ++ movedPage translate gap.length (tag.before ++ tag.source ++ rest) =
            done ++ tag.before ++ overlay scribble tag.source ++
              movedPage translate gap'.length rest := by
          rw [movedPage, split, movedPage]
          simp only [moved, translated, length, List.append_assoc]
        rw [whole, parsed, result]
        exact ⟨memory, _, rfl, front, List.forall_mem_cons.mpr ⟨behind, all⟩⟩

/-- When all marks are behind what is read, the page fits. -/
theorem room_of_parse {rounds : Nat} {done gap page : List UInt8} (clean : 0 ∉ page)
    {memory : List UInt8} {size : Nat} {marks : List Mark}
    (result : htmlArgumentParse translate rounds (parseAt done gap page) =
      some (memory, size, marks))
    (behind : ∀ mark ∈ marks, mark.Behind) : Room translate gap.length (splitPage page).1 := by
  induction rounds generalizing done gap page memory size marks with
  | zero => cases result
  | succ rounds ih =>
    obtain ⟨-, split⟩ | ⟨tag, rest, rfl, found, split⟩ := strrfind_cases page
    · rw [split]
      exact trivial
    · have later : 0 ∉ rest := fun zero => clean (List.mem_append_right _ zero)
      have name := parse_mark ⟨clean, found⟩ result behind
      have extent : (translate tag.names.1 tag.names.2).extent ≤ gap.length + tag.source.length := by
        obtain ⟨middle, -, -, parsed⟩ :=
          parse_tag translate rounds done gap rest ⟨clean, found⟩ name
        rw [parsed, Option.bind_eq_some_iff] at result
        obtain ⟨_, -, result⟩ := result
        obtain ⟨_, -, same⟩ := Option.map_eq_some_iff.mp result
        cases same
        exact (tagMark_behind.mp (behind _ List.mem_cons_self)).2
      rw [split, Room]
      refine ⟨name, ?_⟩
      cases translated : translate tag.names.1 tag.names.2 with
      | text value =>
        rw [translated] at extent
        refine ⟨extent, ?_⟩
        by_cases full : value.length = gap.length + tag.source.length
        · exact Or.inl full
        · have short : value.length < gap.length + tag.source.length :=
            Nat.lt_of_le_of_ne extent full
          obtain ⟨gap', length, parsed⟩ :=
            @parse_text translate rounds done gap rest tag ⟨clean, found⟩ name value translated short
          rw [parsed] at result
          obtain ⟨_, inner, same⟩ := Option.map_eq_some_iff.mp result
          cases same
          rw [← length]
          exact Or.inr (ih later inner fun mark member => behind mark (List.mem_cons_of_mem _ member))
      | refused scribble =>
        rw [translated] at extent
        refine ⟨extent, ?_⟩
        obtain ⟨gap', length, parsed⟩ :=
          @parse_refused translate rounds done gap rest tag ⟨clean, found⟩ name scribble translated
            extent
        rw [parsed] at result
        obtain ⟨_, inner, same⟩ := Option.map_eq_some_iff.mp result
        cases same
        rw [← length]
        exact ih later inner fun mark member => behind mark (List.mem_cons_of_mem _ member)

/-! ## The condition -/

/-- The condition on the tags of a page and the text behind them, from a distance on. A text
that takes the whole distance must be the last thing of the page; a handler that refuses has
written nothing but what was there. -/
def Fits (translate : List UInt8 → List UInt8 → Para) : Nat → List Tag → List UInt8 → Prop
  | _, [], _ => True
  | gap, tag :: tags, tail =>
    tag.inner.length + 2 ≤ gap ∧
      match translate tag.names.1 tag.names.2 with
      | .text value =>
        value.length < gap + tag.source.length ∧
            Fits translate (gap + tag.source.length - value.length) tags tail ∨
          value.length = gap + tag.source.length ∧ assemble translate tags tail = []
      | .refused scribble =>
        scribble.length ≤ gap + tag.source.length ∧
          scribble.take tag.source.length <+: tag.source ∧ Fits translate gap tags tail

/-- What a handler wrote over the copy of a tag leaves it as it was exactly when it is the
beginning of the tag. -/
theorem overlay_eq_iff (scribble source : List UInt8) :
    overlay scribble source = source ↔ scribble.take source.length <+: source := by
  have rest : source.drop (scribble.take source.length).length = source.drop scribble.length := by
    rw [List.length_take]
    by_cases short : scribble.length ≤ source.length
    · rw [Nat.min_eq_right short]
    · rw [Nat.min_eq_left (by omega), List.drop_length, List.drop_eq_nil_of_le (by omega)]
  rw [List.prefix_iff_eq_append, rest, overlay]

/-- A handler's writing does not change the length of the copy. -/
theorem overlay_length (scribble source : List UInt8) :
    (overlay scribble source).length = source.length := by
  rw [overlay, List.length_append, List.length_take, List.length_drop]
  omega

/-- The first tag of a page and the rest of it. -/
theorem assemble_cons (tag : Tag) (tags : List Tag) (tail : List UInt8) :
    assemble translate (tag :: tags) tail =
      tag.before ++ tag.translated translate ++ assemble translate tags tail := by
  simp only [assemble, List.flatMap_cons, List.append_assoc]

/-- A page fits exactly when there is room and what the rounds leave is the page with its tags
translated. -/
theorem fits_iff (gap : Nat) (tags : List Tag) (tail : List UInt8) :
    Fits translate gap tags tail ↔
      Room translate gap tags ∧ moved translate gap tags tail = assemble translate tags tail := by
  induction tags generalizing gap with
  | nil => simp [Fits, Room, moved, assemble]
  | cons tag tags ih =>
    rw [assemble_cons, Fits, Room, moved, Tag.translated]
    cases translate tag.names.1 tag.names.2 with
    | text value =>
      simp only [List.append_cancel_left_eq, ih, and_assoc]
      by_cases full : value.length = gap + tag.source.length
      · simp only [full, Nat.lt_irrefl, false_and, true_and, false_or, Nat.le_refl, true_or, if_pos]
        exact and_congr_right fun _ => eq_comm
      · have order : value.length < gap + tag.source.length ↔
            value.length ≤ gap + tag.source.length := by omega
        simp only [full, false_and, or_false, false_or, if_neg, not_false_iff, order]
    | refused scribble =>
      have parts : tag.before ++ overlay scribble tag.source ++ moved translate gap tags tail =
          tag.before ++ tag.source ++ assemble translate tags tail ↔
            overlay scribble tag.source = tag.source ∧
              moved translate gap tags tail = assemble translate tags tail := by
        rw [List.append_assoc, List.append_assoc, List.append_cancel_left_eq]
        constructor
        · exact fun same => List.append_inj same (overlay_length _ _)
        · intro ⟨first, second⟩
          rw [first, second]
      simp only [parts, ih, overlay_eq_iff]
      tauto

/-! ## Pages -/

/-- The loop does what it should from a distance on: it returns the length of the page with its
tags translated, these bytes are at the front of the buffer, and in every round what was written
stays behind what is still to be read. -/
def ParsesExactly (translate : List UInt8 → List UInt8 → Para)
    (result : Option (List UInt8 × Nat × List Mark)) (page : List UInt8) : Prop :=
  ∃ memory marks, result = some (memory, (translatePage translate page).length, marks) ∧
    memory.take (translatePage translate page).length = translatePage translate page ∧
    ∀ mark ∈ marks, mark.Behind

/-- The loop does what it should when the page fits, and only then. -/
theorem parsesExactly_iff {free page : List UInt8} (clean : 0 ∉ page) :
    ParsesExactly translate
        (htmlArgumentParse translate (page.length + 1) (parseAt [] free page)) page ↔
      Fits translate free.length (splitPage page).1 (splitPage page).2 := by
  rw [fits_iff]
  constructor
  · intro ⟨memory, marks, result, front, behind⟩
    have room := room_of_parse clean result behind
    obtain ⟨_, _, other, front', -⟩ :=
      @parse_of_room _ (page.length + 1) [] free page clean (Nat.lt_succ_self _) room
    rw [result, Option.some.injEq, Prod.mk.injEq, Prod.mk.injEq] at other
    obtain ⟨rfl, size, -⟩ := other
    rw [← size, front, List.nil_append] at front'
    exact ⟨room, front'.symm⟩
  · intro ⟨room, same⟩
    obtain ⟨memory, marks, result, front, behind⟩ :=
      @parse_of_room _ (page.length + 1) [] free page clean (Nat.lt_succ_self _) room
    rw [movedPage, same, List.nil_append] at result front
    exact ⟨memory, marks, result, front, behind⟩

/-- The variables at the call in `init_get`. -/
theorem initGetParse_eq (table : List HtmlArgument) (authority : Nat) {free : List UInt8}
    (page : List UInt8) (start : free.length = httpParseLength) :
    initGetParse table authority free page =
      htmlArgumentParse (translateWebPara table authority) (page.length + 1)
        (parseAt [] free page) := by
  simp only [initGetParse, parseAt, ← start, List.append_assoc, List.nil_append, List.length_nil,
    Nat.zero_add]

/-- For every page and every table of handlers, the page that `init_get` sends is the page with
its tags translated, written behind what is still to be read, exactly when the translations fit
the free bytes in front of the page. -/
theorem initGet_exact_iff (table : List HtmlArgument) (authority : Nat) {free page : List UInt8}
    (start : free.length = httpParseLength) (clean : 0 ∉ page) :
    ParsesExactly (translateWebPara table authority) (initGetParse table authority free page) page ↔
      Fits (translateWebPara table authority) httpParseLength (splitPage page).1
        (splitPage page).2 := by
  rw [initGetParse_eq table authority page start, ← start]
  exact parsesExactly_iff clean

/-- An entry whose handler writes some number of bytes. -/
def blankArgument (count : Nat) : HtmlArgument :=
  ⟨ascii "a", fun _ => .text (List.replicate count 32), 0⟩

/-- A page with a tag and a byte behind it. -/
def taggedPage : List UInt8 := ascii "<%a%>b"

/-- The tag of the page is known. -/
theorem blankArgument_translated (count : Nat) :
    translateWebPara [blankArgument count] 0 [97] [] = .text (List.replicate count 32) := by
  have name : (blankArgument count).name = [97] := by
    show ascii "a" = [97]
    decide
  rw [← name]
  exact translateWebPara_single (blankArgument count) [] (Nat.zero_le _)

/-- A translation of three bytes fits. -/
theorem initGet_exact_short :
    ParsesExactly (translateWebPara [blankArgument 3] 0)
      (initGetParse [blankArgument 3] 0 (List.replicate httpParseLength 0) taggedPage)
      taggedPage := by
  apply (initGet_exact_iff [blankArgument 3] 0 List.length_replicate (by decide)).mpr
  have split : splitPage taggedPage = ([⟨[], [97]⟩], [98]) := by decide
  have known : translateWebPara [blankArgument 3] 0 [97] [] = .text (List.replicate 3 32) :=
    blankArgument_translated 3
  have names : (Tag.mk [] [97]).names = ([97], []) := rfl
  rw [split, Fits, names, known]
  refine ⟨by decide, ?_⟩
  exact Or.inl ⟨by decide, trivial⟩

/-- A translation that is longer than the free bytes and its tag does not. -/
theorem initGet_inexact :
    ¬ParsesExactly (translateWebPara [blankArgument 8200] 0)
      (initGetParse [blankArgument 8200] 0 (List.replicate httpParseLength 0) taggedPage)
      taggedPage := by
  have split : splitPage taggedPage = ([⟨[], [97]⟩], [98]) := by decide
  have known : translateWebPara [blankArgument 8200] 0 [97] [] =
      .text (List.replicate 8200 32) := blankArgument_translated 8200
  rw [initGetParse_eq _ _ _ List.length_replicate, parsesExactly_iff (by decide), split, fits_iff,
    List.length_replicate]
  intro ⟨⟨_, room⟩, _⟩
  have names : (Tag.mk [] [97]).names = ([97], []) := rfl
  rw [names, known] at room
  have bound := room.1
  rw [List.length_replicate] at bound
  exact absurd bound (by decide)

end BoaIpcam
