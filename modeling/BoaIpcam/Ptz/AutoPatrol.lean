import BoaIpcam.Ptz.Visca
import Mathlib.Algebra.Order.BigOperators.Group.List
import Mathlib.Algebra.Order.Group.Nat

/-!
# Patrols of a VISCA camera

The request `uri_config_auto_patrol` of `request.c` takes the names of presets apart and stores a
patrol of them. It counts the names of all its arguments, but keeps only those of the last one in
each place. The build is one with `SUPPORT_VISCA`.
-/
namespace BoaIpcam.AutoPatrol

open Visca

/-! ## The arrays -/

/-- `NIPCA_SEQUENCE`. -/
structure Sequence where
  /-- The line of the patrol. -/
  line : Int
  /-- The place in it. -/
  seqIdx : Int
  /-- The number of the preset. -/
  presetIdx : Int
  /-- How long the camera stays. -/
  dwellTime : Int
  /-- How fast it moves. -/
  speed : Int
  /-- The number of the presets, at the last one. -/
  isendseq : Int
deriving DecidableEq, Repr

/-- How the request goes wrong: an array is used at an index that it does not have, or the null
pointer is read. -/
inductive Fault where
  | outside (index : Int)
  | null
deriving DecidableEq, Repr

/-- The sizes of the arrays. -/
structure Build where
  /-- `MAX_PTZPRESET_NUM`. -/
  maxPtzpresetNum : Nat
  /-- `MAX_VISCAPRESET`. -/
  maxViscapreset : Nat
  /-- A patrol has room for a preset. -/
  positive : 0 < maxPtzpresetNum

/-- What `%d-%s` reads of a text with both parts. -/
def readPreset (text : List UInt8) : Option (Int × List UInt8) := do
  let (tmp, rest) ← scanInt text
  let rest ← scanChar 45 rest
  let name ← scanWord rest
  some (tmp, name)

/-- The texts from `VISCA_PRESET_ID01` on. The first one has both parts. -/
structure PresetTable (build : Build) where
  /-- The texts. -/
  text : Nat → List UInt8
  /-- The first one has a number and a name. -/
  first : 0 < build.maxViscapreset → readPreset (text 0) ≠ none

/-- What the stack holds when the request comes: `auto_patrol`, `tmp` and `string_cmp`. -/
structure Stack where
  /-- The array of the patrol. -/
  autoPatrol : Nat → Sequence
  /-- `tmp` and `string_cmp`. -/
  scratch : Scratch

/-! ## The names -/

/-- The loop over a value with `strtok`: `text` is what stands from `str` on. A token behind which
there is no comma reaches the end of the value. -/
def splitPresets : Nat → List UInt8 → List (List UInt8)
  | 0, _ => []
  | rounds + 1, text =>
    let str := text.dropWhile (· = 44)
    if str = [] then []
    else
      let token := str.takeWhile (· ≠ 44)
      if str.length < token.length + 1 then [token]
      else token :: splitPresets rounds (str.drop (token.length + 1))

/-- The array `ptr` and `total`. -/
structure Names where
  /-- The names by their places. -/
  ptr : Nat → Option (List UInt8)
  /-- How many were counted. -/
  total : Nat

/-- The tokens of a value are written to `ptr` from its start. -/
def Names.store (names : Names) (tokens : List (List UInt8)) : Names where
  ptr j := if j < tokens.length then tokens[j]? else names.ptr j
  total := names.total + tokens.length

/-- The values of the arguments that are called `presets`. -/
def presetsValues (args : List (List UInt8 × List UInt8)) : List (List UInt8) :=
  (args.filter fun arg => arg.1 = ascii "presets").map (·.2)

/-- The loop over the arguments. -/
def readNames (build : Build) (values : List (List UInt8)) : Names :=
  values.foldl (fun names value => names.store (splitPresets build.maxPtzpresetNum value))
    ⟨fun _ => none, 0⟩

/-- The string at `ptr[i]`. -/
def Names.read (build : Build) (names : Names) (i : Nat) : Except Fault (List UInt8) :=
  if build.maxPtzpresetNum ≤ i then .error (.outside i)
  else
    match names.ptr i with
    | none => .error .null
    | some token => .ok token

/-! ## The presets -/

/-- The loop over the presets for one name, which is only read for a preset that is set. It
answers the number of the preset, if there is one, and the variables. -/
def search (read : Nat → List UInt8) (name : Except Fault (List UInt8)) :
    Scratch → List Nat → Except Fault (Option Int × Scratch)
  | now, [] => .ok (none, now)
  | now, j :: rest =>
    let now := now.scan (read j)
    if now.stringCmp = nonsetting then search read name now rest
    else
      match name with
      | .error fault => .error fault
      | .ok token =>
        if token = now.stringCmp then .ok (some now.tmp, now) else search read name now rest

/-- The variables of the loop over the names. -/
structure Matching where
  /-- The patrol so far. -/
  autoPatrol : Nat → Sequence
  /-- How many names were found. -/
  matched : Nat
  /-- `tmp` and `string_cmp`. -/
  scratch : Scratch

/-- The entry of a preset in the patrol. -/
def entryOf (i : Nat) (tmp : Int) : Sequence := ⟨0, i, tmp, 6, 7, -1⟩

section Request

variable (build : Build) (presets : PresetTable build)

/-- A round of the loop over the names. -/
def matchName (names : Names) (now : Matching) (i : Nat) : Except Fault Matching :=
  match search presets.text (names.read build i) now.scratch (List.range build.maxViscapreset) with
  | .error fault => .error fault
  | .ok (none, scratch) => .ok { now with scratch := scratch }
  | .ok (some tmp, scratch) =>
    if build.maxPtzpresetNum ≤ i then .error (.outside i)
    else .ok ⟨Function.update now.autoPatrol i (entryOf i tmp), now.matched + 1, scratch⟩

/-- The answer of the request: the patrol in the file, a bad request, the code −1, or the names. -/
inductive Answer where
  | shown | badRequest | refused | done
deriving DecidableEq, Repr

/-- What a request leads to: the answer, and what is stored in `sys_info->auto_patrol`, if
anything is. -/
structure Outcome where
  /-- What is answered. -/
  answer : Answer
  /-- The patrol that is stored. -/
  stored : Option (Nat → Sequence)

/-- The patrol is stored, and its last entry gets the number of names. -/
def storePatrol (autoPatrol : Nat → Sequence) (total : Nat) (forked : Bool) :
    Except Fault Outcome :=
  let last : Int := total - 1
  if last < 0 ∨ build.maxPtzpresetNum ≤ last then .error (.outside last)
  else
    .ok
      { answer := if forked then .done else .refused
        stored := some fun i =>
          if (i : Int) = last then { autoPatrol i with isendseq := total } else autoPatrol i }

/-- `uri_config_auto_patrol`, with the arguments that `uri_decoding` finds, if it does not fail;
it fails without a query string or without memory. -/
def uriConfigAutoPatrol (stack : Stack) (forked : Bool) (cmdCount : Int)
    (decoded : Option (List (List UInt8 × List UInt8))) : Except Fault Outcome :=
  match decoded with
  | none => .ok ⟨if cmdCount ≤ 0 then .shown else .badRequest, none⟩
  | some args => do
    let names := readNames build (presetsValues args)
    let found ← (List.range names.total).foldlM (matchName build presets names)
      ⟨stack.autoPatrol, 0, stack.scratch⟩
    if names.total ≠ found.matched then .ok ⟨.refused, none⟩
    else storePatrol build found.autoPatrol names.total forked

end Request

/-! ## What is asked -/

/-- The names in a value, without the empty ones. -/
def namesIn (value : List UInt8) : List (List UInt8) := (value.splitOn 44).filter (· ≠ [])

/-- The number of the first preset with a name among some slots. -/
def idIn (read : Nat → List UInt8) (name : List UInt8) (slots : List Nat) : Option Int :=
  slots.findSome? fun j =>
    match readPreset (read j) with
    | none => none
    | some (id, found) => if found ≠ nonsetting ∧ name = found then some id else none

/-- The number of the first preset with a name. -/
def idOf {build : Build} (presets : PresetTable build) (name : List UInt8) : Option Int :=
  idIn presets.text name (List.range build.maxViscapreset)

/-- The patrol has the presets of the names in their order, and its end at the last one only. -/
structure Patrols (build : Build) (presets : PresetTable build) (names : List (List UInt8))
    (patrol : Nat → Sequence) : Prop where
  /-- There is room for the names. -/
  fits : names.length ≤ build.maxPtzpresetNum
  /-- Each name has its preset and its place. -/
  entries : ∀ (i : Nat) name, names[i]? = some name →
    idOf presets name = some (patrol i).presetIdx ∧ (patrol i).seqIdx = i
  /-- The end is at the last one. -/
  last : ∀ i < build.maxPtzpresetNum, (patrol i).isendseq = names.length ↔ i + 1 = names.length

/-- The request uses the arrays at their indices only, and either stores nothing and is not
answered as done, or stores the patrol of the names. -/
def StoresPatrol (build : Build) (presets : PresetTable build) (stack : Stack) (forked : Bool)
    (cmdCount : Int) (decoded : Option (List (List UInt8 × List UInt8))) : Prop :=
  ∃ outcome, uriConfigAutoPatrol build presets stack forked cmdCount decoded = .ok outcome ∧
    (outcome.stored = none ∧ outcome.answer ≠ .done ∨
      ∃ args patrol, decoded = some args ∧ outcome.stored = some patrol ∧
        Patrols build presets ((presetsValues args).flatMap namesIn) patrol)

/-- A preset is set in one of the slots. -/
def SetIn (read : Nat → List UInt8) (slots : List Nat) : Prop :=
  ∃ j ∈ slots, ∃ preset ∈ readPreset (read j), preset.2 ≠ nonsetting

/-- A preset of the table is set. -/
def SomeSet {build : Build} (presets : PresetTable build) : Prop :=
  SetIn presets.text (List.range build.maxViscapreset)

/-- When the request stores a patrol or nothing: one value has names; one of those that fit is not
the name of a preset, or all names fit and none of the entries that the stack holds behind them has
their number as its end. With names in several values no preset may be set. -/
def PatrolMeets (build : Build) (presets : PresetTable build) (stack : Stack)
    (args : List (List UInt8 × List UInt8)) : Prop :=
  match ((presetsValues args).map namesIn).filter (· ≠ []) with
  | [] => False
  | [names] =>
    (∃ name ∈ names.take build.maxPtzpresetNum, idOf presets name = none) ∨
      names.length ≤ build.maxPtzpresetNum ∧
        ∀ i, names.length ≤ i → i < build.maxPtzpresetNum →
          (stack.autoPatrol i).isendseq ≠ names.length
  | _ => ¬SomeSet presets

/-! ## The names that are kept -/

/-- A comma in front names nothing. -/
theorem namesIn_comma (rest : List UInt8) : namesIn (44 :: rest) = namesIn rest := by
  unfold namesIn
  rw [List.splitOn_cons_eq_if_modifyHead, if_pos (beq_self_eq_true _),
    List.filter_cons_of_neg (by simp)]

/-- Nor do several. -/
theorem namesIn_dropWhile (text : List UInt8) :
    namesIn (text.dropWhile (· = 44)) = namesIn text := by
  induction text with
  | nil => rfl
  | cons c text ih =>
    by_cases comma : c = 44
    · rw [List.dropWhile_cons_of_pos (by simp [comma]), ih, comma, namesIn_comma]
    · rw [List.dropWhile_cons_of_neg (by simpa using comma)]

/-- The last name. -/
theorem namesIn_last {token : List UInt8} (plain : 44 ∉ token) (nonempty : token ≠ []) :
    namesIn token = [token] := by
  unfold namesIn
  rw [List.splitOn_eq_singleton plain, List.filter_cons_of_pos (by simp [nonempty]),
    List.filter_nil]

/-- A name with a comma behind it. -/
theorem namesIn_token {token : List UInt8} (plain : 44 ∉ token) (nonempty : token ≠ [])
    (rest : List UInt8) : namesIn (token ++ 44 :: rest) = token :: namesIn rest := by
  have alone := namesIn_last plain nonempty
  unfold namesIn at alone ⊢
  rw [List.splitOn_append_cons_self, List.filter_append, alone, List.singleton_append]

/-- The loop over a value keeps as many names as there is room for. -/
theorem splitPresets_eq (rounds : Nat) (text : List UInt8) :
    splitPresets rounds text = (namesIn text).take rounds := by
  induction rounds generalizing text with
  | zero => rfl
  | succ rounds ih =>
    rw [splitPresets, ← namesIn_dropWhile text]
    dsimp only
    have start : ∀ c, (text.dropWhile (· = 44)).head? = some c → c ≠ 44 := by
      intro c first
      have other := List.head?_dropWhile_not (fun c : UInt8 => decide (c = 44)) text
      rw [first] at other
      exact of_decide_eq_false other
    generalize text.dropWhile (· = 44) = str at start
    split
    · next empty =>
      rw [empty]
      rfl
    · next nonempty =>
      have parts := List.takeWhile_append_dropWhile (p := fun c : UInt8 => decide (c ≠ 44)) (l := str)
      have plain : 44 ∉ str.takeWhile (fun c => decide (c ≠ 44)) := by
        intro member
        have other := List.mem_takeWhile_imp member
        simp at other
      have token : str.takeWhile (fun c => decide (c ≠ 44)) ≠ [] := by
        cases str with
        | nil => exact absurd rfl nonempty
        | cons c rest =>
          rw [List.takeWhile_cons_of_pos (by simp [start c rfl])]
          exact List.cons_ne_nil _ _
      have comma : ∀ c ∈ (str.dropWhile (fun c => decide (c ≠ 44))).head?, c = 44 := by
        intro c first
        have other := List.head?_dropWhile_not (fun c : UInt8 => decide (c ≠ 44)) str
        rw [Option.mem_def.mp first] at other
        simpa using other
      generalize str.takeWhile (fun c => decide (c ≠ 44)) = word at parts plain token ⊢
      cases behind : str.dropWhile (fun c => decide (c ≠ 44)) with
      | nil =>
        rw [behind, List.append_nil] at parts
        rw [if_pos (by rw [parts]; omega), ← parts, namesIn_last plain token, List.take_succ_cons,
          List.take_nil]
      | cons c rest =>
        rw [behind] at parts comma
        have mark := comma c rfl
        rw [mark] at parts
        have length := congrArg List.length parts
        rw [List.length_append, List.length_cons] at length
        rw [if_neg (by omega), ih, ← parts, namesIn_token plain token, List.take_succ_cons,
          ← List.drop_drop, List.drop_left]
        rfl

/-- Empty names are passed. -/
example : splitPresets 3 (ascii ",a,,b") = [ascii "a", ascii "b"] := by decide

/-- Nothing is written for a value without names. -/
theorem store_nil (names : Names) : names.store [] = names := by
  simp [Names.store]

/-- Only the values with names count. -/
theorem foldl_store_filter (lists : List (List (List UInt8))) (names : Names) :
    lists.foldl Names.store names = (lists.filter (· ≠ [])).foldl Names.store names := by
  induction lists generalizing names with
  | nil => rfl
  | cons tokens lists ih =>
    by_cases empty : tokens = []
    · rw [List.foldl_cons, empty, store_nil, List.filter_cons_of_neg (by simp), ih]
    · rw [List.filter_cons_of_pos (by simp [empty]), List.foldl_cons, List.foldl_cons, ih]

/-- The names of all values are counted. -/
theorem total_foldl_store (lists : List (List (List UInt8))) (names : Names) :
    (lists.foldl Names.store names).total = names.total + (lists.map List.length).sum := by
  induction lists generalizing names with
  | nil => rfl
  | cons tokens lists ih =>
    rw [List.foldl_cons, ih, List.map_cons, List.sum_cons, Names.store]
    dsimp only
    omega

/-- Behind the longest value nothing is written. -/
theorem ptr_foldl_store {lists : List (List (List UInt8))} {names : Names} {j : Nat}
    (unset : names.ptr j = none) (short : ∀ tokens ∈ lists, tokens.length ≤ j) :
    (lists.foldl Names.store names).ptr j = none := by
  induction lists generalizing names with
  | nil => exact unset
  | cons tokens lists ih =>
    obtain ⟨here, later⟩ := List.forall_mem_cons.mp short
    apply ih _ later
    rw [Names.store]
    dsimp only
    rw [if_neg (by omega), unset]

section Names

variable {build : Build} {values : List (List UInt8)}

/-- The tokens of the values that have some. -/
theorem splitPresets_filter (build : Build) (values : List (List UInt8)) :
    (values.map (splitPresets build.maxPtzpresetNum)).filter (· ≠ []) =
      ((values.map namesIn).filter (· ≠ [])).map (List.take build.maxPtzpresetNum) := by
  have positive := build.positive
  induction values with
  | nil => rfl
  | cons value values ih =>
    rw [List.map_cons, List.map_cons, splitPresets_eq]
    by_cases empty : namesIn value = []
    · rw [empty, List.take_nil, List.filter_cons_of_neg (by simp),
        List.filter_cons_of_neg (by simp), ih]
    · have some : (namesIn value).take build.maxPtzpresetNum ≠ [] := by
        intro none
        rcases List.take_eq_nil_iff.mp none with zero | nothing
        · omega
        · exact empty nothing
      rw [List.filter_cons_of_pos (by simp [some]), List.filter_cons_of_pos (by simp [empty]), ih,
        List.map_cons]

/-- What is kept of the values. -/
theorem readNames_eq (build : Build) (values : List (List UInt8)) :
    readNames build values =
      (((values.map namesIn).filter (· ≠ [])).map (List.take build.maxPtzpresetNum)).foldl
        Names.store ⟨fun _ => none, 0⟩ := by
  rw [← splitPresets_filter, ← foldl_store_filter, List.foldl_map]
  rfl

/-- Without names none is counted. -/
theorem readNames_none (build : Build) (none : (values.map namesIn).filter (· ≠ []) = []) :
    (readNames build values).total = 0 := by
  rw [readNames_eq, none]
  rfl

/-- The names of a single value are kept in their places. -/
theorem readNames_single (build : Build) {names : List (List UInt8)}
    (single : (values.map namesIn).filter (· ≠ []) = [names]) :
    (readNames build values).total = (names.take build.maxPtzpresetNum).length ∧
      ∀ i < (names.take build.maxPtzpresetNum).length,
        (readNames build values).ptr i = (names.take build.maxPtzpresetNum)[i]? := by
  rw [readNames_eq, single]
  refine ⟨Nat.zero_add _, fun i below => if_pos below⟩

/-- Of several values with names more are counted than kept. -/
theorem readNames_several (build : Build) {first second : List (List UInt8)} {rest : List (List (List UInt8))}
    (several : (values.map namesIn).filter (· ≠ []) = first :: second :: rest) :
    ∃ i < (readNames build values).total, (readNames build values).ptr i = none := by
  have positive := build.positive
  have long : ∀ names ∈ (values.map namesIn).filter (· ≠ []),
      1 ≤ (names.take build.maxPtzpresetNum).length := by
    intro names member
    have nonempty : names ≠ [] := by simpa using (List.mem_filter.mp member).2
    have length := List.length_pos_iff.mpr nonempty
    rw [List.length_take]
    omega
  rw [several] at long
  have total : (readNames build values).total = 0 + (((first :: second :: rest).map
      (List.take build.maxPtzpresetNum)).map List.length).sum := by
    rw [readNames_eq, several, total_foldl_store]
  have one := long first List.mem_cons_self
  have two := long second (List.mem_cons_of_mem _ List.mem_cons_self)
  rw [List.map_cons, List.map_cons, List.map_cons, List.map_cons, List.sum_cons, List.sum_cons]
    at total
  refine ⟨(readNames build values).total - 1, by omega, ?_⟩
  rw [readNames_eq, several] at total ⊢
  apply ptr_foldl_store rfl
  intro tokens member
  rw [total]
  rcases List.mem_cons.mp member with rfl | member
  · omega
  rcases List.mem_cons.mp member with rfl | member
  · omega
  · have bound : tokens.length ≤ ((rest.map (List.take build.maxPtzpresetNum)).map List.length).sum :=
      List.le_sum_of_mem (List.mem_map_of_mem member)
    omega

end Names

/-! ## The search of a preset -/

/-- A text with both parts sets both variables. -/
theorem scan_of_readPreset {text : List UInt8} {preset : Int × List UInt8}
    (read : readPreset text = some preset) (before : Scratch) :
    before.scan text = ⟨preset.1, preset.2⟩ := by
  unfold readPreset at read
  obtain ⟨⟨tmp, rest⟩, number, read⟩ := Option.bind_eq_some_iff.mp read
  obtain ⟨behind, dash, read⟩ := Option.bind_eq_some_iff.mp read
  obtain ⟨name, word, same⟩ := Option.bind_eq_some_iff.mp read
  cases same
  simp only [Scratch.scan, number, dash, word, Option.getD_some]

/-- The text of a preset has both parts. -/
theorem readPreset_presetText {number : Int} {name : List UInt8} (int : IsInt number)
    (solid : Solid name) (nonempty : name ≠ []) :
    readPreset (presetText number name) = some (number, name) := by
  have dash : NoDigit (45 :: name) := by
    intro c first
    cases first
    rfl
  have mark : scanChar 45 (45 :: name) = some name := rfl
  have word : scanWord name = some name := by rw [scanWord_solid solid, if_neg nonempty]
  unfold readPreset
  rw [presetText, scanInt_intText int dash, Option.bind_eq_bind, Option.bind_some]
  dsimp only
  rw [mark, Option.bind_eq_bind, Option.bind_some, word]
  rfl

/-- The handlers of presets keep texts with both parts. -/
theorem readPreset_held {maxViscapreset : Nat} {s : Traced} (held : Held maxViscapreset s)
    (some : 0 < maxViscapreset) : readPreset (s.presets.text (0 : Nat)) ≠ none := by
  obtain ⟨name, plain, text⟩ := held.slot 0 some
  have int : IsInt ((0 : Nat) + 1 : Int) := by
    unfold IsInt
    omega
  have whole : Solid (s.presets.slotName 0 name) ∧ s.presets.slotName 0 name ≠ [] := by
    unfold Presets.slotName
    split
    · exact ⟨plain.solid_marked, List.append_ne_nil_of_left_ne_nil plain.nonempty _⟩
    · exact ⟨plain.solid, plain.nonempty⟩
  rw [text, readPreset_presetText int whole.1 whole.2]
  exact Option.some_ne_none _

/-- The table that the handlers of presets leave. -/
def PresetTable.ofHeld {build : Build} {s : Traced} (held : Held build.maxViscapreset s) :
    PresetTable build :=
  ⟨fun j => s.presets.text j, readPreset_held held⟩

/-- Another text leaves the name of the text before. -/
theorem stringCmp_of_readPreset {text : List UInt8} (unread : readPreset text = none)
    (before : Scratch) : (before.scan text).stringCmp = before.stringCmp := by
  unfold readPreset at unread
  unfold Scratch.scan
  cases number : scanInt text with
  | none => rfl
  | some first =>
    cases dash : scanChar 45 first.2 with
    | none => simp [dash]
    | some rest =>
      have word : scanWord rest = none := by
        cases found : scanWord rest with
        | none => rfl
        | some name => simp [number, dash, found] at unread
      simp [dash, word]

section Search

variable {read : Nat → List UInt8} {slots : List Nat} {now : Scratch} {token : List UInt8}

/-- A round of the search. -/
theorem search_cons (name : Except Fault (List UInt8)) (now : Scratch) (j : Nat) :
    search read name now (j :: slots) =
      if (now.scan (read j)).stringCmp = nonsetting then search read name (now.scan (read j)) slots
      else
        match name with
        | .error fault => .error fault
        | .ok token =>
          if token = (now.scan (read j)).stringCmp then
            .ok (some (now.scan (read j)).tmp, now.scan (read j))
          else search read name (now.scan (read j)) slots := by
  cases name <;> rfl

/-- A name is searched. The variables do not hold it before, so that it is not found where nothing
is read. -/
theorem search_ok (other : now.stringCmp = nonsetting ∨ token ≠ now.stringCmp) :
    ∃ last, search read (.ok token) now slots = .ok (idIn read token slots, last) := by
  induction slots generalizing now with
  | nil => exact ⟨now, rfl⟩
  | cons j slots ih =>
    rw [search_cons, idIn, List.findSome?_cons]
    cases parts : readPreset (read j) with
    | none =>
      have same := stringCmp_of_readPreset parts now
      rw [same]
      dsimp only
      split
      · next unset => exact ih (.inl (same.trans unset))
      · next set =>
        have different := other.resolve_left set
        rw [if_neg different]
        exact ih (.inr (by rwa [same]))
    | some preset =>
      obtain ⟨id, name⟩ := preset
      rw [scan_of_readPreset parts now]
      dsimp only
      split
      · next unset =>
        rw [if_neg fun both => both.1 unset]
        exact ih (.inl unset)
      · next set =>
        by_cases here : token = name
        · rw [if_pos here, if_pos ⟨set, here⟩]
          exact ⟨_, rfl⟩
        · rw [if_neg here, if_neg fun both => here both.2]
          exact ih (.inr here)

/-- A name that cannot be read is not searched if a preset is set. -/
theorem search_error {fault : Fault} (set : SetIn read slots) :
    search read (.error fault) now slots = .error fault := by
  induction slots generalizing now with
  | nil =>
    obtain ⟨j, member, -⟩ := set
    cases member
  | cons j slots ih =>
    rw [search_cons]
    split
    · next unset =>
      apply ih
      obtain ⟨k, member, preset, found, named⟩ := set
      rcases List.mem_cons.mp member with rfl | later
      · rw [scan_of_readPreset found] at unset
        exact absurd unset named
      · exact ⟨k, later, preset, found, named⟩
    · rfl

/-- Nothing is found, nor read of the name, if no preset is set. -/
theorem search_unset {name : Except Fault (List UInt8)} (unset : ¬SetIn read slots)
    (quiet : now.stringCmp = nonsetting) :
    ∃ last, search read name now slots = .ok (none, last) := by
  induction slots generalizing now with
  | nil => exact ⟨now, rfl⟩
  | cons j slots ih =>
    have rest : ¬SetIn read slots := fun ⟨k, member, found⟩ =>
      unset ⟨k, List.mem_cons_of_mem j member, found⟩
    have still : (now.scan (read j)).stringCmp = nonsetting := by
      cases parts : readPreset (read j) with
      | none => exact (stringCmp_of_readPreset parts now).trans quiet
      | some preset =>
        rw [scan_of_readPreset parts now]
        by_contra named
        exact unset ⟨j, List.mem_cons_self, _, parts, named⟩
    rw [search_cons, if_pos still]
    exact ih rest still

/-- Behind a first text with both parts the variables of before do not count. -/
theorem search_start {name : Except Fault (List UInt8)} {j : Nat} (first : readPreset (read j) ≠ none)
    (before now : Scratch) :
    search read name before (j :: slots) = search read name now (j :: slots) := by
  obtain ⟨preset, found⟩ := Option.ne_none_iff_exists'.mp first
  rw [search_cons, search_cons, scan_of_readPreset found, scan_of_readPreset found]

end Search

/-! ## The loop over the names -/

section Loop

variable {build : Build} {presets : PresetTable build} {names : Names} {now : Matching}

/-- The variables of before do not count in a search of the table. -/
theorem search_table (presets : PresetTable build) (name : Except Fault (List UInt8))
    (now : Scratch) :
    build.maxViscapreset = 0 ∨
      search presets.text name now (List.range build.maxViscapreset) =
        search presets.text name ⟨0, nonsetting⟩ (List.range build.maxViscapreset) := by
  rcases Nat.eq_zero_or_pos build.maxViscapreset with none | some
  · exact .inl none
  · have first := presets.first some
    obtain ⟨more, count⟩ := Nat.exists_eq_succ_of_ne_zero (Nat.ne_of_gt some)
    rw [count, List.range_succ_eq_map]
    exact .inr (search_start first now _)

/-- A name is searched in the table. -/
theorem search_table_ok (presets : PresetTable build) (token : List UInt8) (now : Scratch) :
    ∃ last, search presets.text (.ok token) now (List.range build.maxViscapreset) =
      .ok (idOf presets token, last) := by
  rcases search_table presets (.ok token) now with none | same
  · rw [idOf, none]
    exact ⟨now, rfl⟩
  · rw [same]
    exact search_ok (.inl rfl)

/-- A table in which no preset is set is searched. -/
theorem search_table_unset (unset : ¬SomeSet presets) (name : Except Fault (List UInt8))
    (now : Scratch) :
    ∃ last, search presets.text name now (List.range build.maxViscapreset) = .ok (none, last) := by
  rcases search_table presets name now with none | same
  · rw [none]
    exact ⟨now, rfl⟩
  · rw [same]
    exact search_unset unset rfl

/-- A round for a name that is read. -/
theorem matchName_ok (presets : PresetTable build) {i : Nat} {token : List UInt8} (now : Matching)
    (below : i < build.maxPtzpresetNum) (ptr : names.ptr i = some token) :
    ∃ scratch, matchName build presets names now i =
      match idOf presets token with
      | none => .ok { now with scratch := scratch }
      | some id => .ok ⟨Function.update now.autoPatrol i (entryOf i id), now.matched + 1, scratch⟩ := by
  have read : names.read build i = .ok token := by
    rw [Names.read, if_neg (by omega), ptr]
  obtain ⟨last, found⟩ := search_table_ok presets token now.scratch
  refine ⟨last, ?_⟩
  rw [matchName, read, found]
  cases idOf presets token with
  | none => rfl
  | some id => exact if_neg (Nat.not_le.mpr below)

/-- The loop over names that are all read: the presets that are found are counted and entered, and
the other entries are those of before. -/
theorem match_names (presets : PresetTable build) {tokens : List (List UInt8)}
    (short : tokens.length ≤ build.maxPtzpresetNum)
    (ptr : ∀ i < tokens.length, names.ptr i = tokens[i]?) (start : Matching) {n : Nat}
    (within : n ≤ tokens.length) :
    ∃ now, (List.range n).foldlM (matchName build presets names) start = .ok now ∧
      now.matched = start.matched +
        (tokens.take n).countP (fun token => (idOf presets token).isSome) ∧
      (∀ i, n ≤ i → now.autoPatrol i = start.autoPatrol i) ∧
      ∀ i < n, ∀ token id, tokens[i]? = some token → idOf presets token = some id →
        now.autoPatrol i = entryOf i id := by
  induction n with
  | zero => exact ⟨start, rfl, rfl, fun _ _ => rfl, fun i below => absurd below (Nat.not_lt_zero i)⟩
  | succ n ih =>
    obtain ⟨now, ran, matched, others, entries⟩ := ih (by omega)
    have at_n : tokens[n]? = some tokens[n] := List.getElem?_eq_getElem (by omega)
    generalize tokens[n] = token at at_n
    obtain ⟨scratch, round⟩ := matchName_ok presets now (by omega)
      ((ptr n (by omega)).trans at_n)
    have step : (List.range (n + 1)).foldlM (matchName build presets names) start =
        matchName build presets names now n := by
      rw [List.range_succ, List.foldlM_append, ran]
      exact bind_pure (matchName build presets names now n)
    rw [step, round, List.take_add_one, at_n, Option.toList_some, List.countP_append,
      List.countP_singleton]
    have earlier : ∀ i < n, i ≠ n := fun i below => Nat.ne_of_lt below
    cases found : idOf presets token with
    | none =>
      refine ⟨_, rfl, by simpa using matched, fun i late => others i (by omega), ?_⟩
      intro i below other id at_i named
      rcases Nat.lt_or_eq_of_le (Nat.le_of_lt_succ below) with before | rfl
      · exact entries i before other id at_i named
      · rw [at_n] at at_i
        cases at_i
        rw [found] at named
        cases named
    | some id =>
      refine ⟨_, rfl, by simp [matched, Nat.add_assoc], ?_, ?_⟩
      · intro i late
        exact (Function.update_of_ne (by omega) _ _).trans (others i (by omega))
      · intro i below other number at_i named
        rcases Nat.lt_or_eq_of_le (Nat.le_of_lt_succ below) with before | rfl
        · exact (Function.update_of_ne (Nat.ne_of_lt before) _ _).trans
            (entries i before other number at_i named)
        · rw [at_n] at at_i
          cases at_i
          rw [found] at named
          cases named
          exact Function.update_self _ _ _

/-- The loop over names fails at one that cannot be read if a preset is set. -/
theorem match_names_fails (set : SomeSet presets) {i : Nat} {fault : Fault}
    (unread : names.read build i = .error fault) {list : List Nat} (member : i ∈ list)
    (start now : Matching) :
    list.foldlM (matchName build presets names) start ≠ .ok now := by
  induction list generalizing start with
  | nil => cases member
  | cons j list ih =>
    rw [List.foldlM_cons]
    rcases List.mem_cons.mp member with rfl | later
    · have failed : matchName build presets names start i = .error fault := by
        rw [matchName, unread, search_error set]
      rw [failed]
      exact fun same => by cases same
    · cases matchName build presets names start j with
      | error other => exact fun same => by cases same
      | ok next => exact ih later next

/-- Nothing is found by the loop if no preset is set. -/
theorem match_names_unset (names : Names) (unset : ¬SomeSet presets) (list : List Nat) (start : Matching) :
    ∃ now, list.foldlM (matchName build presets names) start = .ok now ∧
      now.matched = start.matched := by
  induction list generalizing start with
  | nil => exact ⟨start, rfl, rfl⟩
  | cons i list ih =>
    obtain ⟨last, found⟩ := search_table_unset unset (names.read build i) start.scratch
    obtain ⟨now, ran, same⟩ := ih { start with scratch := last }
    refine ⟨now, ?_, same⟩
    have round : matchName build presets names start i = .ok { start with scratch := last } := by
      rw [matchName, found]
    rw [List.foldlM_cons, round]
    exact ran

end Loop

/-! ## The request -/

section Request

variable {build : Build} {presets : PresetTable build} {stack : Stack} {forked : Bool}
  {cmdCount : Int} {args : List (List UInt8 × List UInt8)}

/-- The request with what the loop over the names leaves. -/
theorem uriConfigAutoPatrol_found (forked : Bool) (cmdCount : Int) {found : Matching}
    (ran : (List.range (readNames build (presetsValues args)).total).foldlM
      (matchName build presets (readNames build (presetsValues args)))
      ⟨stack.autoPatrol, 0, stack.scratch⟩ = .ok found) :
    uriConfigAutoPatrol build presets stack forked cmdCount (some args) =
      if (readNames build (presetsValues args)).total ≠ found.matched then .ok ⟨.refused, none⟩
      else storePatrol build found.autoPatrol (readNames build (presetsValues args)).total forked := by
  unfold uriConfigAutoPatrol
  dsimp only
  rw [ran]
  rfl

/-- A request that stores nothing. -/
theorem storesPatrol_refused {decoded : Option (List (List UInt8 × List UInt8))}
    (refused : uriConfigAutoPatrol build presets stack forked cmdCount decoded =
      .ok ⟨.refused, none⟩) : StoresPatrol build presets stack forked cmdCount decoded :=
  ⟨_, refused, .inl ⟨rfl, by decide⟩⟩

/-- Without names the last entry is the one before the array. -/
theorem not_storesPatrol_none
    (none : ((presetsValues args).map namesIn).filter (· ≠ []) = []) :
    ¬StoresPatrol build presets stack forked cmdCount (some args) := by
  have total := readNames_none build none
  have start : (List.range (readNames build (presetsValues args)).total).foldlM
      (matchName build presets (readNames build (presetsValues args)))
      ⟨stack.autoPatrol, 0, stack.scratch⟩ = .ok ⟨stack.autoPatrol, 0, stack.scratch⟩ := by
    rw [total]
    rfl
  rintro ⟨outcome, same, -⟩
  rw [uriConfigAutoPatrol_found forked cmdCount start, total] at same
  cases same

/-- The names of several values are only refused when no preset is set. -/
theorem storesPatrol_several {first second : List (List UInt8)} {rest : List (List (List UInt8))}
    (several : ((presetsValues args).map namesIn).filter (· ≠ []) = first :: second :: rest) :
    StoresPatrol build presets stack forked cmdCount (some args) ↔ ¬SomeSet presets := by
  obtain ⟨i, below, unread⟩ := readNames_several build several
  constructor
  · rintro ⟨outcome, ran, -⟩ set
    obtain ⟨fault, read⟩ : ∃ fault,
        (readNames build (presetsValues args)).read build i = .error fault := by
      rw [Names.read, unread]
      split
      · exact ⟨_, rfl⟩
      · exact ⟨_, rfl⟩
    unfold uriConfigAutoPatrol at ran
    dsimp only at ran
    cases found : (List.range (readNames build (presetsValues args)).total).foldlM
        (matchName build presets (readNames build (presetsValues args)))
        ⟨stack.autoPatrol, 0, stack.scratch⟩ with
    | error other =>
      rw [found] at ran
      cases ran
    | ok now => exact match_names_fails set read (List.mem_range.mpr below) _ now found
  · intro unset
    obtain ⟨now, ran, matched⟩ := match_names_unset (readNames build (presetsValues args)) unset
      (List.range (readNames build (presetsValues args)).total)
      ⟨stack.autoPatrol, 0, stack.scratch⟩
    apply storesPatrol_refused
    rw [uriConfigAutoPatrol_found forked cmdCount ran, if_pos]
    rw [matched]
    dsimp only
    omega

/-- The names of the values that have some are all names. -/
theorem flatMap_namesIn (values : List (List UInt8)) :
    values.flatMap namesIn = ((values.map namesIn).filter (· ≠ [])).flatten := by
  rw [List.flatten_filter_ne_nil, List.flatMap_def]

/-- What is stored for names that all have a preset: the patrol of the names exactly when all of
them fit and no entry behind them has their number as its end. -/
theorem patrols_iff {names : List (List UInt8)} {found : Nat → Sequence}
    (known : ∀ name ∈ names.take build.maxPtzpresetNum, idOf presets name ≠ none)
    (others : ∀ i, (names.take build.maxPtzpresetNum).length ≤ i → found i = stack.autoPatrol i)
    (entries : ∀ i < (names.take build.maxPtzpresetNum).length, ∀ token id,
      (names.take build.maxPtzpresetNum)[i]? = some token → idOf presets token = some id →
        found i = entryOf i id) :
    Patrols build presets names (fun i =>
      if (i : Int) = (names.take build.maxPtzpresetNum).length - 1 then
        { found i with isendseq := (names.take build.maxPtzpresetNum).length }
      else found i) ↔
      names.length ≤ build.maxPtzpresetNum ∧
        ∀ i, names.length ≤ i → i < build.maxPtzpresetNum →
          (stack.autoPatrol i).isendseq ≠ names.length := by
  constructor
  · intro patrols
    have fits := patrols.fits
    have all : names.take build.maxPtzpresetNum = names := List.take_of_length_le fits
    rw [all] at others
    refine ⟨fits, fun i behind below ends => ?_⟩
    have last := patrols.last i below
    rw [all, if_neg (by omega), others i behind] at last
    have position := last.mp ends
    omega
  · rintro ⟨fits, garbage⟩
    have all : names.take build.maxPtzpresetNum = names := List.take_of_length_le fits
    rw [all] at known others entries ⊢
    refine ⟨fits, fun i name at_i => ?_, fun i below => ?_⟩
    · have short : i < names.length := (List.getElem?_eq_some_iff.mp at_i).1
      obtain ⟨id, named⟩ := Option.ne_none_iff_exists'.mp (known name (List.mem_of_getElem? at_i))
      rw [entries i short name id at_i named, named]
      split
      · exact ⟨rfl, rfl⟩
      · exact ⟨rfl, rfl⟩
    · by_cases last : i + 1 = names.length
      · rw [if_pos (by omega)]
        exact iff_of_true rfl last
      · rw [if_neg (by omega)]
        rcases Nat.lt_or_ge i names.length with short | behind
        · have at_i : names[i]? = some names[i] := List.getElem?_eq_getElem short
          obtain ⟨id, named⟩ :=
            Option.ne_none_iff_exists'.mp (known _ (List.mem_of_getElem? at_i))
          rw [entries i short _ id at_i named]
          exact iff_of_false (fun ends => by simp only [entryOf] at ends; omega) last
        · rw [others i behind]
          exact iff_of_false (garbage i behind below) last

/-- The names of a single value. -/
theorem storesPatrol_single {names : List (List UInt8)}
    (single : ((presetsValues args).map namesIn).filter (· ≠ []) = [names]) :
    StoresPatrol build presets stack forked cmdCount (some args) ↔
      (∃ name ∈ names.take build.maxPtzpresetNum, idOf presets name = none) ∨
        names.length ≤ build.maxPtzpresetNum ∧
          ∀ i, names.length ≤ i → i < build.maxPtzpresetNum →
            (stack.autoPatrol i).isendseq ≠ names.length := by
  have positive := build.positive
  obtain ⟨total, ptr⟩ := readNames_single build single
  have all : (presetsValues args).flatMap namesIn = names := by
    rw [flatMap_namesIn, single, List.flatten_singleton]
  have some : 0 < (names.take build.maxPtzpresetNum).length := by
    have member : names ∈ ((presetsValues args).map namesIn).filter (· ≠ []) := by
      rw [single]
      exact List.mem_cons_self
    have nonempty : names ≠ [] := by simpa using (List.mem_filter.mp member).2
    have length := List.length_pos_iff.mpr nonempty
    rw [List.length_take]
    omega
  have short : (names.take build.maxPtzpresetNum).length ≤ build.maxPtzpresetNum := by
    rw [List.length_take]
    omega
  obtain ⟨now, ran, matched, others, entries⟩ := match_names presets short ptr
    ⟨stack.autoPatrol, 0, stack.scratch⟩ (Nat.le_refl _)
  rw [List.take_length, Nat.zero_add] at matched
  rw [← total] at ran
  have request := uriConfigAutoPatrol_found forked cmdCount ran
  rw [total, matched] at request
  by_cases known : ∀ name ∈ names.take build.maxPtzpresetNum, idOf presets name ≠ none
  · have counted : (names.take build.maxPtzpresetNum).countP
        (fun token => (idOf presets token).isSome) = (names.take build.maxPtzpresetNum).length :=
      List.countP_eq_length.mpr fun name member => Option.isSome_iff_ne_none.mpr (known name member)
    have left : ¬∃ name ∈ names.take build.maxPtzpresetNum, idOf presets name = none :=
      fun ⟨name, member, unknown⟩ => known name member unknown
    rw [counted, if_neg (not_not.mpr rfl), storePatrol, if_neg (by omega)] at request
    rw [or_iff_right left, ← patrols_iff known others entries]
    constructor
    · rintro ⟨outcome, same, stored⟩
      rw [request] at same
      cases same
      rcases stored with ⟨nothing, -⟩ | ⟨_, patrol, given, stored, patrols⟩
      · cases nothing
      · cases given
        cases stored
        rwa [all] at patrols
    · intro patrols
      refine ⟨_, request, .inr ⟨args, _, rfl, rfl, ?_⟩⟩
      rwa [all]
  · have unknown : ∃ name ∈ names.take build.maxPtzpresetNum, idOf presets name = none := by
      by_contra left
      exact known fun name member absent => left ⟨name, member, absent⟩
    apply iff_of_true _ (.inl unknown)
    obtain ⟨name, member, absent⟩ := unknown
    apply storesPatrol_refused
    rw [request, if_pos]
    intro counted
    have found := List.countP_eq_length.mp counted.symm name member
    rw [absent] at found
    cases found

/-- The request stores the patrol of its names, or nothing, exactly when its arguments meet the
condition. -/
theorem auto_patrol_stored (build : Build) (presets : PresetTable build) (stack : Stack)
    (forked : Bool) (cmdCount : Int) (decoded : Option (List (List UInt8 × List UInt8))) :
    StoresPatrol build presets stack forked cmdCount decoded ↔
      ∀ args, decoded = some args → PatrolMeets build presets stack args := by
  cases decoded with
  | none =>
    apply iff_of_true _ (fun args same => by cases same)
    refine ⟨_, rfl, .inl ⟨rfl, ?_⟩⟩
    split <;> decide
  | some args =>
    simp only [Option.some_inj, forall_eq']
    unfold PatrolMeets
    split
    · next none => exact iff_of_false (not_storesPatrol_none none) id
    · next names single => exact storesPatrol_single single
    · next lists notNone notSingle =>
      cases several : ((presetsValues args).map namesIn).filter (· ≠ []) with
      | nil => exact absurd several notNone
      | cons first rest =>
        cases rest with
        | nil => exact absurd several (notSingle first)
        | cons second rest => exact storesPatrol_several several

end Request

/-- A build with arrays of two presets. -/
def smallBuild : Build := ⟨2, 2, Nat.le_of_ble_eq_true rfl⟩

/-- The first text of a table with the preset `a`. -/
theorem readPreset_a : readPreset (ascii "1-a") ≠ none := by decide

/-- A table with the presets `a` and `b`. -/
def smallPresets : PresetTable smallBuild :=
  ⟨fun j => if j = 0 then ascii "1-a" else ascii "2-b", fun _ => readPreset_a⟩

/-- A stack of zeros. -/
def zeroStack : Stack := ⟨fun _ => ⟨0, 0, 0, 0, 0, 0⟩, ⟨0, []⟩⟩

/-- Without a name the entry before the array is written, and a second argument makes the request
read a null pointer. -/
theorem auto_patrol_faults :
    ¬StoresPatrol smallBuild smallPresets zeroStack true 1 (some [(ascii "presets", [])]) ∧
      ¬StoresPatrol smallBuild smallPresets zeroStack true 2
        (some [(ascii "presets", ascii "a"), (ascii "presets", ascii "b")]) := by
  constructor
  · exact not_storesPatrol_none (by decide)
  · have set : SomeSet smallPresets := ⟨0, by decide, (1, ascii "a"), by decide, by decide⟩
    have two : ((presetsValues [(ascii "presets", ascii "a"), (ascii "presets", ascii "b")]).map
        namesIn).filter (· ≠ []) = [[ascii "a"], [ascii "b"]] := by decide
    exact fun stores => (storesPatrol_several two).mp stores set

end BoaIpcam.AutoPatrol
