import BoaIpcam.Events.Commands
import BoaIpcam.Lib.Accesses

/-!
# How the commands for events split their texts

The four commands keep the places of the colons in an array with one cell for each parameter, in a
loop with one round more. `set_event_server` stores a place when it is found; the other three store
what `strchr` returns before they look whether it is a null pointer. The parts of the text are then
copied to arrays of the structures, most of them with one byte less than the array has.
-/
namespace BoaIpcam.Events

open Accesses

/-! ## The loop over the colons -/

/-- What the loop does: the cells of `ptr` that it writes, and `para_cnt`. -/
structure Split where
  /-- The cells that are written. -/
  stores : List (Access Unit)
  /-- How many parameters are counted. -/
  paraCnt : Nat

/-- The rounds of the loop from a cell on. With `early` the place is stored before it is looked
at. -/
def colonLoop (early : Bool) : Nat → Nat → List UInt8 → Split
  | 0, _, _ => ⟨[], 0⟩
  | rounds + 1, i, str =>
    match splitAtByte 58 str with
    | none => ⟨if early then [⟨(), i⟩] else [], 0⟩
    | some (_, rest) =>
      let next := colonLoop early rounds (i + 1) rest
      ⟨⟨(), i⟩ :: next.stores, next.paraCnt + 1⟩

/-- The loop of a command. -/
def splitText (early : Bool) (paraNum : Nat) (text : List UInt8) : Split :=
  colonLoop early (paraNum + 1) 0 text

/-! ## The copies -/

/-- `strncpy` from a text to an array that is empty before. -/
structure Copy where
  /-- The size of the array. -/
  size : Nat
  /-- The limit of the copy. -/
  count : Nat
  /-- What is copied. -/
  text : List UInt8

/-- The bytes that are stored are within the array and a terminator is left. -/
def Copy.Fits (copy : Copy) : Prop :=
  copy.count ≤ copy.size ∧ (copy.text.length < copy.count ∨ copy.count < copy.size)

/-- The bytes between two colons. -/
def gap (ptr : List (List UInt8)) (k l : Nat) : Nat :=
  (behind ptr k).length - ((behind ptr l).length + 1)

/-- The copy of the bytes between two colons, of so many at most. -/
def copyBetween (ptr : List (List UInt8)) (size most k l : Nat) : Copy :=
  ⟨size, min most (gap ptr k l), behind ptr k⟩

section Copies

variable (fw : Firmware) (info : SysInfo) (text : List UInt8) (ptr : List (List UInt8))

/-- The copies of the account and the host of a server. -/
def accountCopies (user pass fqdn : ServerField) (most : Nat) : List Copy :=
  let array := fw.server.arraySize
  let position := fw.server.position
  [copyBetween ptr (array user) (array user - 1) (position .user) (position .pass),
    copyBetween ptr (array pass) (array pass - 1) (position .pass) (position .fqdn),
    copyBetween ptr (array fqdn) most (position .fqdn) (position .port)]

/-- The copies of the settings of a server. The host of SMTP may fill its array. -/
def settingsCopies (id : Nat) : ServerSettings → List Copy
  | .smtp _ => accountCopies fw ptr .smtpUsername .smtpPassword .smtpFqdn
      (fw.server.arraySize .smtpFqdn)
  | .ftp _ => accountCopies fw ptr .ftpUsername .ftpPassword .ftpFqdn
      (fw.server.arraySize .ftpFqdn - 1)
  | .samba _ =>
    if takenElsewhere fw.build info fw.server.typeSamba id then []
    else accountCopies fw ptr .sambaUsername .sambaPassword .sambaFqdn
      (fw.server.arraySize .sambaFqdn - 1)
  | .sd => []
  | .unknown _ => []

/-- The copy of a name, and what is copied behind its tests. -/
def nameCopies (name : List UInt8) (k l : Nat) (rest : List Copy) : List Copy :=
  copyBetween ptr fw.build.nameSize (fw.build.nameSize - 1) k l ::
    if name = [] ∨ fw.build.special name then [] else rest

/-- The copies of `set_event_server`. -/
def serverCopies : List Copy :=
  let server := readServer fw.build fw.server text ptr
  if fw.build.layout.size .server ≤ server.id then []
  else nameCopies fw ptr server.name (fw.server.position .name) (fw.server.position .user)
    (settingsCopies fw info ptr server.id server.settings)

/-- The copy of a file name, which has no bound but `E2G_FILE_NAME_LEN`, when no test fails. -/
def filenameCopies (filenameSize : Nat) (tests : List Test) (name : List UInt8) : List Copy :=
  if tests.any Test.fails then [] else [⟨filenameSize, fw.build.fileNameLen, name⟩]

/-- The copies of the settings of a medium. -/
def mediaSettingsCopies (filenameSize : Nat) (settings : MediaSettings) : List Copy :=
  let copies := filenameCopies fw filenameSize
    (mediaSettingsTests fw.build fw.media info ptr settings) (mediaFilename fw.media ptr)
  match settings with
  | .pic _ => copies
  | .video _ => copies
  | .log => []
  | .unknown _ => []

/-- The copies of `set_event_media`. -/
def mediaCopies (filenameSize : Nat) : List Copy :=
  let media := readMedia fw.build fw.media text ptr
  if fw.build.layout.size .media ≤ media.id then []
  else nameCopies fw ptr media.name (fw.media.position .name) (fw.media.position .source)
    (mediaSettingsCopies fw info ptr filenameSize media.settings)

/-- The copies of `set_event_type`. -/
def eventCopies : List Copy :=
  let event := readEventType fw.build fw.event text ptr
  if fw.build.layout.size .event ≤ event.id ∨ 1 < event.enable then []
  else nameCopies fw ptr event.name (fw.event.position .name) (fw.event.position .scDay) []

/-- The copies of `set_event_record`. -/
def recordCopies (filenameSize : Nat) : List Copy :=
  let record := readRecord fw.build fw.record text ptr
  if fw.build.layout.size .record ≤ record.id ∨ 1 < record.enable then []
  else nameCopies fw ptr record.name (fw.record.position .name) (fw.record.position .scDay)
    (filenameCopies fw filenameSize (recordTests fw.build fw.record ptr record)
      (recordPrefix fw.record ptr))

end Copies

/-! ## What is asked of the commands -/

/-- The loop of a command. -/
def Firmware.split (fw : Firmware) (text : List UInt8) : Table → Split
  | .server => splitText false fw.server.paraNum text
  | .media => splitText true fw.media.paraNum text
  | .event => splitText true fw.event.paraNum text
  | .record => splitText true fw.record.paraNum text

/-- The number of the parameters of a command. -/
def Firmware.paraNum (fw : Firmware) : Table → Nat
  | .server => fw.server.paraNum
  | .media => fw.media.paraNum
  | .event => fw.event.paraNum
  | .record => fw.record.paraNum

/-- The copies of a command, from a text with the right number of parameters. -/
def Firmware.copies (fw : Firmware) (filenameSize : Nat) (info : SysInfo) (text : List UInt8)
    (t : Table) : List Copy :=
  let ptr := parametersOf (fw.paraNum t) text
  match t with
  | .server => serverCopies fw info text ptr
  | .media => mediaCopies fw info text ptr filenameSize
  | .event => eventCopies fw text ptr
  | .record => recordCopies fw text ptr filenameSize

/-- The loop writes only the cells of its array and accepts exactly the texts with as many colons
as there are parameters, and what is copied of those fits its array with a terminator. -/
structure SplitsRight (fw : Firmware) (filenameSize : Nat) (info : SysInfo) (text : List UInt8)
    (t : Table) : Prop where
  /-- Only cells of the array are written. -/
  inside : AllInside (fun _ => fw.paraNum t) (fw.split text t).stores
  /-- The colons are counted. -/
  accepts : (fw.split text t).paraCnt = fw.paraNum t ↔ text.count 58 = fw.paraNum t
  /-- What is copied fits. -/
  fits : (fw.split text t).paraCnt = fw.paraNum t →
    ∀ copy ∈ fw.copies filenameSize info text t, copy.Fits

/-- A request for a server of the type SMTP reaches the copy of its host, and the host has as many
bytes as its array. -/
def LongHost (fw : Firmware) (text : List UInt8) : Prop :=
  let ptr := parametersOf fw.server.paraNum text
  let server := readServer fw.build fw.server text ptr
  server.id < fw.build.layout.size .server ∧ server.name ≠ [] ∧
    fw.build.special server.name = false ∧
    narrow 16 (atoi (behind ptr (fw.server.position .type))) = 0 ∧
    fw.server.arraySize .smtpFqdn ≤
      gap ptr (fw.server.position .fqdn) (fw.server.position .port)

/-! ## When the commands split their texts -/

/-- The colons before and behind the first one. -/
theorem count_splitAtByte (str : List UInt8) :
    (splitAtByte 58 str = none → str.count 58 = 0) ∧
    ∀ before rest, splitAtByte 58 str = some (before, rest) →
      str.count 58 = rest.count 58 + 1 := by
  induction str with
  | nil => simp [splitAtByte]
  | cons c str ih =>
    by_cases colon : c = 58
    · simp [splitAtByte, colon]
    · rw [splitAtByte, if_neg colon, List.count_cons_of_ne (Ne.symm (Ne.symm colon))]
      constructor
      · intro none
        exact ih.1 (Option.map_eq_none_iff.mp none)
      · intro before rest found
        obtain ⟨parts, same, equal⟩ := Option.map_eq_some_iff.mp found
        cases equal
        exact ih.2 _ _ same

/-- The loop counts the colons, as many as it has rounds. -/
theorem colonLoop_paraCnt (early : Bool) (rounds i : Nat) (str : List UInt8) :
    (colonLoop early rounds i str).paraCnt = min (str.count 58) rounds := by
  induction rounds generalizing i str with
  | zero => simp [colonLoop]
  | succ rounds ih =>
    unfold colonLoop
    cases found : splitAtByte 58 str with
    | none => simp [(count_splitAtByte str).1 found]
    | some parts =>
      obtain ⟨before, rest⟩ := parts
      simp only [ih, (count_splitAtByte str).2 before rest found]
      omega

/-- The loop stays within an array when it ends before its last cell. With `early` it writes one
cell more than it finds colons. -/
theorem colonLoop_inside (early : Bool) {size i : Nat} (rounds : Nat) (str : List UInt8)
    (least : i ≤ size) :
    AllInside (fun _ => size) (colonLoop early rounds i str).stores ↔
      i + min (str.count 58 + if early then 1 else 0) rounds ≤ size := by
  induction rounds generalizing i str with
  | zero => simp [colonLoop, least]
  | succ rounds ih =>
    unfold colonLoop
    cases found : splitAtByte 58 str with
    | none =>
      have none := (count_splitAtByte str).1 found
      cases early with
      | false => simp [none, least]
      | true =>
        simp only [if_true, allInside_cons, inside_natCast, allInside_nil, and_true, none, zero_add,
          Nat.le_add_left, Nat.min_eq_left]
        exact Nat.lt_iff_add_one_le
    | some parts =>
      obtain ⟨before, rest⟩ := parts
      have more := (count_splitAtByte str).2 before rest found
      simp only [allInside_cons, inside_natCast, more]
      by_cases here : i < size
      · rw [ih rest here]
        simp only [here, true_and]
        omega
      · simp only [here, false_and, false_iff]
        omega

/-- The loop accepts exactly the texts with as many colons as there are parameters. -/
theorem splitText_accepts (early : Bool) (paraNum : Nat) (text : List UInt8) :
    (splitText early paraNum text).paraCnt = paraNum ↔ text.count 58 = paraNum := by
  rw [splitText, colonLoop_paraCnt]
  omega

/-- The loop writes only its array exactly when the text has no more colons than parameters, and
fewer when the place is stored before it is looked at. -/
theorem splitText_inside (early : Bool) (paraNum : Nat) (text : List UInt8) :
    AllInside (fun _ => paraNum) (splitText early paraNum text).stores ↔
      (text.count 58 + if early then 1 else 0) ≤ paraNum := by
  rw [splitText, colonLoop_inside early _ _ (Nat.zero_le _)]
  omega

/-- A copy with one byte less than the array fits. -/
theorem copyBetween_fits {ptr : List (List UInt8)} {size k l : Nat} (positive : 0 < size) :
    (copyBetween ptr size (size - 1) k l).Fits := by
  unfold Copy.Fits copyBetween
  dsimp only
  omega

/-- A copy with as many bytes as the array fits exactly when there are fewer. -/
theorem copyBetween_full {ptr : List (List UInt8)} {size k l : Nat} :
    (copyBetween ptr size size k l).Fits ↔ gap ptr k l < size := by
  unfold Copy.Fits copyBetween gap
  dsimp only
  omega

section Commands

variable {fw : Firmware} {info : SysInfo} {text : List UInt8} {ptr : List (List UInt8)}

/-- The copies of an account and a host fit when the copy of the host does. -/
theorem accountCopies_fit (arrays : ∀ field, 0 < fw.server.arraySize field)
    (user pass fqdn : ServerField) (most : Nat) :
    (∀ copy ∈ accountCopies fw ptr user pass fqdn most, copy.Fits) ↔
      (copyBetween ptr (fw.server.arraySize fqdn) most (fw.server.position .fqdn)
        (fw.server.position .port)).Fits := by
  unfold accountCopies
  simp [copyBetween_fits (arrays user), copyBetween_fits (arrays pass)]

/-- The copies of the settings fit unless the host of SMTP fills its array. -/
theorem settingsCopies_fit (info : SysInfo) (ptr : List (List UInt8))
    (arrays : ∀ field, 0 < fw.server.arraySize field) (id : Nat) :
    (∀ copy ∈ settingsCopies fw info ptr id (readSettings fw.server ptr), copy.Fits) ↔
      (narrow 16 (atoi (behind ptr (fw.server.position .type))) = 0 →
        gap ptr (fw.server.position .fqdn) (fw.server.position .port) <
          fw.server.arraySize .smtpFqdn) := by
  unfold readSettings
  dsimp only
  split
  · next smtp =>
    rw [settingsCopies, accountCopies_fit arrays, copyBetween_full]
    simp [smtp]
  next other =>
  simp only [other, false_implies, iff_true]
  split
  · rw [settingsCopies, accountCopies_fit arrays]
    exact copyBetween_fits (arrays .ftpFqdn)
  split
  · rw [settingsCopies]
    split
    · simp
    · rw [accountCopies_fit arrays]
      exact copyBetween_fits (arrays .sambaFqdn)
  split
  · simp [settingsCopies]
  · simp [settingsCopies]

/-- The copies behind the test of a name. -/
theorem nameCopies_fit (named : 0 < fw.build.nameSize) (name : List UInt8) (k l : Nat)
    (rest : List Copy) :
    (∀ copy ∈ nameCopies fw ptr name k l rest, copy.Fits) ↔
      (name ≠ [] → fw.build.special name = false → ∀ copy ∈ rest, copy.Fits) := by
  unfold nameCopies
  rw [List.forall_mem_cons]
  simp only [copyBetween_fits named, true_and]
  by_cases empty : name = []
  · simp [empty]
  cases special : fw.build.special name with
  | true => simp
  | false => simp [empty]

/-- The copies of `set_event_server` fit exactly when the host of SMTP does not fill its array. -/
theorem serverCopies_fit (info : SysInfo) (text : List UInt8) (named : 0 < fw.build.nameSize)
    (arrays : ∀ field, 0 < fw.server.arraySize field) :
    (∀ copy ∈ serverCopies fw info text (parametersOf fw.server.paraNum text), copy.Fits) ↔
      ¬LongHost fw text := by
  unfold serverCopies LongHost
  dsimp only
  split
  · next outside =>
    simp [Nat.not_lt.mpr outside]
  · next inside =>
    rw [nameCopies_fit named]
    have slot := Nat.lt_of_not_le inside
    have settings := settingsCopies_fit info (parametersOf fw.server.paraNum text) arrays
      (readServer fw.build fw.server text (parametersOf fw.server.paraNum text)).id
    constructor
    · rintro fits ⟨-, solid, plain, smtp, long⟩
      have short := settings.mp (fits solid plain) smtp
      omega
    · intro short solid plain
      apply settings.mpr
      intro smtp
      by_contra long
      exact short ⟨slot, solid, plain, smtp, Nat.le_of_not_lt long⟩

/-- The three parts of a split that is right. -/
theorem splitsRight_iff {filenameSize : Nat} {t : Table} :
    SplitsRight fw filenameSize info text t ↔
      AllInside (fun _ => fw.paraNum t) (fw.split text t).stores ∧
        ((fw.split text t).paraCnt = fw.paraNum t ↔ text.count 58 = fw.paraNum t) ∧
        ((fw.split text t).paraCnt = fw.paraNum t →
          ∀ copy ∈ fw.copies filenameSize info text t, copy.Fits) :=
  ⟨fun right => ⟨right.inside, right.accepts, right.fits⟩,
    fun ⟨inside, accepts, fits⟩ => ⟨inside, accepts, fits⟩⟩

/-- A loop that stores before it looks is right for texts that it does not accept only. -/
theorem splitText_early (paraNum : Nat) (text : List UInt8) (copies : List Copy) :
    (AllInside (fun _ => paraNum) (splitText true paraNum text).stores ∧
      ((splitText true paraNum text).paraCnt = paraNum ↔ text.count 58 = paraNum) ∧
      ((splitText true paraNum text).paraCnt = paraNum → ∀ copy ∈ copies, copy.Fits)) ↔
    text.count 58 < paraNum := by
  rw [splitText_inside, splitText_accepts]
  constructor
  · rintro ⟨fewer, -, -⟩
    exact fewer
  · intro fewer
    exact ⟨fewer, Iff.rfl, fun accepted => absurd accepted (Nat.ne_of_lt fewer)⟩

/-- A text of `set_event_server` is split right exactly when it has fewer colons than parameters,
or as many and no host of SMTP that fills its array. A text of the other three commands is split
right exactly when it has fewer colons than parameters, so no text that they accept is. -/
theorem event_parameters_split (named : 0 < fw.build.nameSize)
    (arrays : ∀ field, 0 < fw.server.arraySize field) (filenameSize : Nat) (info : SysInfo)
    (text : List UInt8) (t : Table) :
    SplitsRight fw filenameSize info text t ↔
      text.count 58 < fw.paraNum t ∨
      t = .server ∧ text.count 58 = fw.paraNum t ∧ ¬LongHost fw text := by
  rw [splitsRight_iff]
  cases t with
  | media =>
    simp only [reduceCtorEq, false_and, or_false]
    exact splitText_early fw.media.paraNum text _
  | event =>
    simp only [reduceCtorEq, false_and, or_false]
    exact splitText_early fw.event.paraNum text _
  | record =>
    simp only [reduceCtorEq, false_and, or_false]
    exact splitText_early fw.record.paraNum text _
  | server =>
    have copies := serverCopies_fit info text named arrays
    simp only [Firmware.split, Firmware.paraNum, splitText_inside, splitText_accepts,
      Firmware.copies, copies, true_and]
    simp only [Bool.false_eq_true, if_false, Nat.add_zero]
    constructor
    · rintro ⟨most, short⟩
      rcases Nat.lt_or_eq_of_le most with fewer | equal
      · exact .inl fewer
      · exact .inr ⟨equal, short equal⟩
    · rintro (fewer | ⟨equal, short⟩)
      · exact ⟨Nat.le_of_lt fewer, fun equal => absurd equal (Nat.ne_of_lt fewer)⟩
      · exact ⟨Nat.le_of_eq equal, fun _ => short⟩

/-- A request for a server of the type FTP with all thirteen parameters. -/
theorem event_parameters_split_ftp :
    SplitsRight smallFirmware 16 smallInfo (ascii "0:1:n:u:p:h:21:a:b:c:0:w:i:0") .server :=
  (event_parameters_split (by decide) (fun _ => Nat.zero_lt_succ 15) 16 smallInfo _ .server).mpr
    (.inr ⟨rfl, by decide, fun long => absurd long.2.2.2.1 (by decide)⟩)

/-- A well-formed request for a medium writes behind the array. -/
theorem event_media_stores_behind :
    ¬SplitsRight smallFirmware 16 smallInfo (ascii "0:0:n:1:0:0:0:0:f") .media := by
  intro right
  exact absurd right.inside (by decide)

end Commands

end BoaIpcam.Events
