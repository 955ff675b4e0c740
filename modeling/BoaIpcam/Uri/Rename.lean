import BoaIpcam.Uri.Dispatch
import BoaIpcam.Lib.Run

/-!
# Renaming the streams

The commands `http_stream_name_1` to `http_stream_name_3` of `appro_api.c` store the name of a
stream in the buffer that the name of an entry of `HttpUri` points to, and rebuild the hash table
of the URIs. Nothing compares the new name with the names of the other entries. The search starts
at the last entry of a bucket and compares names without regard to case, while the bucket depends
on the case: a URI that differs from a name in two letters has the same bucket and is answered by
the same entry.
-/
namespace BoaIpcam

open TransitionSystem

/-! ## Names that the search takes for one another -/

/-- The search takes a URI for the name of an entry: the bucket is the same, and the bytes are
equal up to case. -/
def SameUri (name arg : List UInt8) : Prop :=
  uriBucket name = uriBucket arg ∧ StrCaseEq name arg

instance (name arg : List UInt8) : Decidable (SameUri name arg) :=
  inferInstanceAs (Decidable (_ ∧ _))

/-- A name is taken for itself. -/
@[simp] theorem SameUri.refl (name : List UInt8) : SameUri name name := ⟨rfl, .refl name⟩

/-- Being taken for one another is symmetric. -/
theorem SameUri.symm {name arg : List UInt8} (same : SameUri name arg) : SameUri arg name :=
  ⟨same.1.symm, same.2.symm⟩

/-- Being taken for one another is transitive. -/
theorem SameUri.trans {first second third : List UInt8} (left : SameUri first second)
    (right : SameUri second third) : SameUri first third :=
  ⟨left.1.trans right.1, left.2.trans right.2⟩

/-- An ASCII letter. -/
def isLetter (c : UInt8) : Bool := 65 ≤ c ∧ c ≤ 90 ∨ 97 ≤ c ∧ c ≤ 122

/-- The number of letters of a name. -/
def letters (name : List UInt8) : Nat := name.countP isLetter

/-- The number of places in which two strings differ. -/
def differing : List UInt8 → List UInt8 → Nat
  | c :: name, d :: arg => (if c = d then 0 else 1) + differing name arg
  | _, _ => 0

/-- The value of a folded character. -/
theorem toLower_toNat (c : UInt8) : (toLower c).toNat =
    if 65 ≤ c.toNat ∧ c.toNat ≤ 90 then c.toNat + 32 else c.toNat := by
  simp only [toLower, UInt8.le_iff_toNat_le, UInt8.reduceToNat]
  split
  · rw [UInt8.toNat_add]
    change (c.toNat + 32) % 256 = c.toNat + 32
    omega
  · rfl

/-- Two characters that are equal up to case and differ are letters 32 apart. -/
theorem toLower_eq_of_ne {c d : UInt8} (same : toLower c = toLower d) (apart : c ≠ d) :
    isLetter c = true ∧ (c.toNat = d.toNat + 32 ∨ d.toNat = c.toNat + 32) := by
  have differ : c.toNat ≠ d.toNat := fun equal => apart (UInt8.toNat_inj.mp equal)
  have values := congrArg UInt8.toNat same
  simp only [toLower_toNat] at values
  simp only [isLetter, UInt8.le_iff_toNat_le, UInt8.reduceToNat, decide_eq_true_iff]
  split at values <;> split at values <;> omega

/-- One step of the hash, modulo the number of buckets. -/
theorem uriHash_step (value : UInt32) (c : UInt8) :
    (value * 37 + c.toUInt32).toNat % 64 = (value.toNat * 37 + c.toNat) % 64 := by
  simp only [UInt32.toNat_add, UInt32.toNat_mul, UInt8.toNat_toUInt32, UInt32.reduceToNat]
  omega

/-- The hashes of strings equal up to case differ by 32 for every place in which they differ. -/
theorem uriHash_differing {name arg : List UInt8} (same : StrCaseEq name arg) :
    ∀ value value' : UInt32, ∀ before : Nat,
      value.toNat % 64 = (value'.toNat + 32 * before) % 64 →
      (name.foldl (fun value c => value * 37 + c.toUInt32) value).toNat % 64 =
        ((arg.foldl (fun value c => value * 37 + c.toUInt32) value').toNat +
          32 * (before + differing name arg)) % 64 := by
  induction name generalizing arg with
  | nil =>
    have empty : arg = [] := List.map_eq_nil_iff.mp (Eq.symm same)
    subst empty
    exact fun _ _ _ start => start
  | cons c name ih =>
    cases arg with
    | nil => cases same
    | cons d arg =>
      obtain ⟨head, tail⟩ := List.cons_eq_cons.mp same
      intro value value' before start
      have stepped : (value * 37 + c.toUInt32).toNat % 64 =
          ((value' * 37 + d.toUInt32).toNat +
            32 * (before + if c = d then 0 else 1)) % 64 := by
        have left := uriHash_step value c
        have right := uriHash_step value' d
        by_cases equal : c = d
        · subst equal
          simp only [if_pos]
          omega
        · have gap := (toLower_eq_of_ne head equal).2
          simp only [if_neg equal]
          omega
      have rest := ih tail _ _ _ stepped
      rw [List.foldl_cons, List.foldl_cons, rest, differing]
      congr 2
      omega

/-- Strings equal up to case are in one bucket exactly when they differ in an even number of
places. -/
theorem uriBucket_eq_iff {name arg : List UInt8} (same : StrCaseEq name arg) :
    uriBucket name = uriBucket arg ↔ differing name arg % 2 = 0 := by
  have hashes := uriHash_differing same 0 0 0 rfl
  rw [uriBucket, uriBucket, ← UInt32.toNat_inj]
  simp only [UInt32.toNat_mod, UInt32.reduceToNat, uriHashCalValue]
  omega

/-- Strings equal up to case that differ nowhere are equal. -/
theorem eq_of_differing_eq_zero {name arg : List UInt8} (same : StrCaseEq name arg)
    (nowhere : differing name arg = 0) : name = arg := by
  induction name generalizing arg with
  | nil => exact (List.map_eq_nil_iff.mp (Eq.symm same)).symm
  | cons c name ih =>
    cases arg with
    | nil => cases same
    | cons d arg =>
      obtain ⟨head, tail⟩ := List.cons_eq_cons.mp same
      rw [differing] at nowhere
      by_cases equal : c = d
      · rw [equal, ih tail (by omega)]
      · rw [if_neg equal] at nowhere
        omega

/-- Strings equal up to case differ in letters only. -/
theorem differing_le_letters {name arg : List UInt8} (same : StrCaseEq name arg) :
    differing name arg ≤ letters name := by
  induction name generalizing arg with
  | nil => simp [differing]
  | cons c name ih =>
    cases arg with
    | nil => cases same
    | cons d arg =>
      obtain ⟨head, tail⟩ := List.cons_eq_cons.mp same
      have rest := ih tail
      rw [differing, letters, List.countP_cons]
      change differing name arg ≤ name.countP isLetter at rest
      by_cases equal : c = d
      · rw [if_pos equal]
        omega
      · rw [if_neg equal, if_pos (toLower_eq_of_ne head equal).1]
        omega

/-- A letter has another case. -/
theorem exists_other_case {c : UInt8} (letter : isLetter c = true) :
    ∃ d, d ≠ c ∧ toLower d = toLower c := by
  simp only [isLetter, UInt8.le_iff_toNat_le, UInt8.reduceToNat, decide_eq_true_iff] at letter
  have other : ∃ d : UInt8, (c.toNat ≤ 90 → d.toNat = c.toNat + 32) ∧
      (97 ≤ c.toNat → d.toNat = c.toNat - 32) := by
    rcases letter with upper | lower
    · have fits : c.toNat + 32 < 256 := by omega
      exact ⟨UInt8.ofNat (c.toNat + 32), fun _ => UInt8.toNat_ofNat_of_lt' fits,
        fun _ => by omega⟩
    · have fits : c.toNat - 32 < 256 := by omega
      exact ⟨UInt8.ofNat (c.toNat - 32), fun _ => by omega,
        fun _ => UInt8.toNat_ofNat_of_lt' fits⟩
  obtain ⟨d, up, down⟩ := other
  refine ⟨d, fun same => ?_, UInt8.toNat_inj.mp ?_⟩
  · subst same
    omega
  · rw [toLower_toNat, toLower_toNat]
    split <;> split <;> omega

/-- A string with enough letters has a spelling that differs in a given number of places. -/
theorem exists_spelling {name : List UInt8} {count : Nat} (enough : count ≤ letters name) :
    ∃ arg, StrCaseEq name arg ∧ differing name arg = count := by
  induction name generalizing count with
  | nil =>
    have none : count = 0 := by simpa [letters] using enough
    exact ⟨[], rfl, none ▸ rfl⟩
  | cons c name ih =>
    rw [letters, List.countP_cons] at enough
    by_cases letter : isLetter c = true ∧ count ≠ 0
    · obtain ⟨d, other, lower⟩ := exists_other_case letter.1
      rw [if_pos letter.1] at enough
      obtain ⟨arg, same, places⟩ := ih (show count - 1 ≤ letters name by
        unfold letters
        omega)
      refine ⟨d :: arg, ?_, ?_⟩
      · exact congrArg₂ List.cons lower.symm same
      · rw [differing, if_neg (Ne.symm other), places]
        omega
    · have fewer : count ≤ letters name := by
        unfold letters
        by_cases plain : isLetter c = true
        · have zero : count = 0 := by
            by_contra some
            exact letter ⟨plain, some⟩
          omega
        · rw [if_neg plain] at enough
          omega
      obtain ⟨arg, same, places⟩ := ih fewer
      refine ⟨c :: arg, congrArg (toLower c :: ·) same, ?_⟩
      rw [differing, if_pos rfl, places]
      omega

/-- No other URI is taken for a name exactly when the name has at most one letter. -/
theorem sameUri_only_iff {name : List UInt8} :
    (∀ arg, SameUri name arg → arg = name) ↔ letters name ≤ 1 := by
  constructor
  · intro only
    by_contra many
    obtain ⟨arg, same, places⟩ := exists_spelling (show 2 ≤ letters name by omega)
    have bucket : uriBucket name = uriBucket arg := (uriBucket_eq_iff same).mpr (by omega)
    have equal := only arg ⟨bucket, same⟩
    rw [equal] at places
    have nowhere : ∀ text : List UInt8, differing text text = 0 := by
      intro text
      induction text with
      | nil => rfl
      | cons c text ih => rw [differing, if_pos rfl, ih]
    rw [nowhere] at places
    omega
  · intro few arg same
    have places := differing_le_letters same.2
    have even := (uriBucket_eq_iff same.2).mp same.1
    exact (eq_of_differing_eq_zero same.2 (by omega)).symm

/-! ## The entry that is found -/

/-- The number of the entry that `http_uri_search` returns. -/
def httpUriNumber (table : List HttpUri) (arg : List UInt8) : Option Nat :=
  HashChains.lookup (hashTableInit HttpUri.name table) table.length
    (fun number => table[number]?.any fun entry => StrCaseEq entry.name arg) (uriBucket arg)

/-- The entry with a number has a name that the URI is taken for. -/
def AnswersAt (table : List HttpUri) (arg : List UInt8) (number : Nat) : Prop :=
  ∃ entry, table[number]? = some entry ∧ SameUri entry.name arg

/-- What is found is the last entry that answers. -/
theorem httpUriNumber_eq_some {table : List HttpUri} {arg : List UInt8} {number : Nat} :
    httpUriNumber table arg = some number ↔
      AnswersAt table arg number ∧ ∀ later, number < later → ¬AnswersAt table arg later := by
  have answers : ∀ n, AnswersAt table arg n ↔ n < table.length ∧
      entryBucket HttpUri.name table n = uriBucket arg ∧
        (table[n]?.any fun entry => StrCaseEq entry.name arg) = true := by
    intro n
    by_cases inside : n < table.length
    · simp [AnswersAt, SameUri, entryBucket, inside]
    · simp [AnswersAt, inside]
  rw [httpUriNumber, hashTableInit, HashChains.lookup_build, HashChains.find?_members_eq_some,
    answers]
  refine and_congr_right fun _ => forall₂_congr fun later _ => ?_
  rw [answers]
  constructor
  · rintro missed ⟨below, bucket, same⟩
    rw [missed below bucket] at same
    cases same
  · intro missed below bucket
    exact Bool.eq_false_iff.mpr fun same => missed ⟨below, bucket, same⟩

/-- Tables in which the same entries answer find the same. -/
theorem httpUriNumber_congr {table table' : List HttpUri} {arg : List UInt8}
    (same : ∀ number, AnswersAt table arg number ↔ AnswersAt table' arg number) :
    httpUriNumber table arg = httpUriNumber table' arg := by
  apply Option.ext
  intro number
  simp only [httpUriNumber_eq_some, same]

/-- Behind an entry that answers in both tables only later entries matter. -/
theorem httpUriNumber_congr_of_later {table table' : List HttpUri} {arg : List UInt8} {place : Nat}
    (same : ∀ number, number ≠ place → (AnswersAt table arg number ↔ AnswersAt table' arg number))
    (later : ∃ number, place < number ∧ AnswersAt table arg number) :
    httpUriNumber table arg = httpUriNumber table' arg := by
  obtain ⟨behind, above, answers⟩ := later
  apply Option.ext
  intro number
  rw [httpUriNumber_eq_some, httpUriNumber_eq_some]
  have passed : ∀ table : List HttpUri, AnswersAt table arg behind →
      (∀ later, number < later → ¬AnswersAt table arg later) → place < number := by
    intro table answers last
    by_contra early
    exact last behind (by omega) answers
  constructor
  · rintro ⟨here, last⟩
    have beyond := passed table answers last
    refine ⟨(same number (by omega)).mp here, fun other above' => ?_⟩
    exact fun there => last other above' ((same other (by omega)).mpr there)
  · rintro ⟨here, last⟩
    have beyond := passed table' ((same behind (by omega)).mp answers) last
    refine ⟨(same number (by omega)).mpr here, fun other above' => ?_⟩
    exact fun there => last other above' ((same other (by omega)).mp there)

/-! ## The commands -/

/-- An entry of `HttpUri` as the source has it: its name is a literal or the buffer
`http_stream[number]`. -/
structure UriRow where
  /-- The buffer of the name. -/
  buffer : Option (Fin 3)
  /-- The entry. -/
  entry : HttpUri

/-- The entry with the text its name points to. The buffer holds the stored name of the stream
behind a slash. -/
def UriRow.named (names : Fin 3 → List UInt8) (row : UriRow) : HttpUri :=
  match row.buffer with
  | none => row.entry
  | some number => { row.entry with name := 47 :: names number }

/-- The table of URIs with one entry for each of the three streams, `MAX_WEB_PROFILE_NUM`, the
number of profiles that `profile_check` compares with, and the maximal lengths of the names. -/
structure StreamBuild where
  /-- The table. -/
  rows : List UriRow
  /-- Where each stream is. -/
  place : Fin 3 → Nat
  /-- It is there. -/
  placed : ∀ stream, (rows[place stream]?).map UriRow.buffer = some (some stream)
  /-- It is nowhere else. -/
  single : ∀ stream number, (rows[number]?).map UriRow.buffer = some (some stream) →
    number = place stream
  /-- `MAX_WEB_PROFILE_NUM`. -/
  maxWebProfileNum : Nat
  /-- The number that `profile_check` compares with. -/
  profileNum : Nat
  /-- The greatest lengths of the names. -/
  maxLen : Fin 3 → Nat

/-- The entries of the table under the stored names. -/
def StreamBuild.table (build : StreamBuild) (names : Fin 3 → List UInt8) : List HttpUri :=
  build.rows.map (UriRow.named names)

/-- What a command answers. -/
inductive NameReply where
  | notSupported
  | refused
  | current (name : List UInt8)
  | ok
deriving DecidableEq, Repr

/-- The stored names after a command and its answer. -/
abbrev NameResult := (Fin 3 → List UInt8) × NameReply

/-- The body of `http_stream_name_1` to `http_stream_name_3`; a profile that `profile_check` does
not call `EXIST_PROFILE` is refused. -/
def httpStreamName (stream : Fin 3) (build : StreamBuild) (names : Fin 3 → List UInt8)
    (value : List UInt8) : NameResult :=
  if build.maxWebProfileNum < stream + 1 then (names, .notSupported)
  else if build.profileNum ≤ stream + 1 then (names, .refused)
  else if value = [] then (names, .current (names stream))
  else if build.maxLen stream < value.length then (names, .refused)
  else (Function.update names stream value, .ok)

/-- `http_stream_name_1`. -/
def httpStreamName1 := httpStreamName 0

/-- `http_stream_name_2`. -/
def httpStreamName2 := httpStreamName 1

/-- `http_stream_name_3`. -/
def httpStreamName3 := httpStreamName 2

/-- The command that names a stream. -/
def nameCommand : Fin 3 → StreamBuild → (Fin 3 → List UInt8) → List UInt8 → NameResult
  | 0 => httpStreamName1
  | 1 => httpStreamName2
  | 2 => httpStreamName3

/-- The three commands differ in the stream only. -/
theorem nameCommand_eq (stream : Fin 3) : nameCommand stream = httpStreamName stream := by
  match stream with
  | 0 => rfl
  | 1 => rfl
  | 2 => rfl

/-- The stored names after the command of a stream with a value. -/
def renamed (build : StreamBuild) (names : Fin 3 → List UInt8) (command : Fin 3 × List UInt8) :
    Fin 3 → List UInt8 :=
  (nameCommand command.1 build names command.2).1

section Renaming

variable (build : StreamBuild) (names : Fin 3 → List UInt8) (stream : Fin 3) (value : List UInt8)

/-- The command takes the value as the new name. -/
def TakesName : Prop :=
  stream + 1 ≤ build.maxWebProfileNum ∧ stream + 1 < build.profileNum ∧ value ≠ [] ∧
    value.length ≤ build.maxLen stream

/-- A command that takes the name stores it and says so, any other stores nothing. -/
theorem nameCommand_cases :
    (TakesName build stream value ∧
      nameCommand stream build names value = (Function.update names stream value, .ok)) ∨
    (¬TakesName build stream value ∧ (nameCommand stream build names value).1 = names ∧
      (nameCommand stream build names value).2 ≠ .ok) := by
  rw [nameCommand_eq, httpStreamName]
  by_cases supported : build.maxWebProfileNum < stream + 1
  · rw [if_pos supported]
    exact .inr ⟨fun takes => Nat.not_lt.mpr takes.1 supported, rfl, by simp⟩
  by_cases exist : build.profileNum ≤ stream + 1
  · rw [if_neg supported, if_pos exist]
    exact .inr ⟨fun takes => Nat.not_le.mpr takes.2.1 exist, rfl, by simp⟩
  by_cases empty : value = []
  · rw [if_neg supported, if_neg exist, if_pos empty]
    exact .inr ⟨fun takes => takes.2.2.1 empty, rfl, by simp⟩
  by_cases long : build.maxLen stream < value.length
  · rw [if_neg supported, if_neg exist, if_neg empty, if_pos long]
    exact .inr ⟨fun takes => Nat.not_lt.mpr takes.2.2.2 long, rfl, by simp⟩
  · rw [if_neg supported, if_neg exist, if_neg empty, if_neg long]
    exact .inl ⟨⟨by omega, by omega, empty, by omega⟩, rfl⟩

/-- What a URI finds under stored names. -/
def StreamBuild.find (names : Fin 3 → List UInt8) (uri : List UInt8) : Option Nat :=
  httpUriNumber (build.table names) uri

/-- An entry answers a URI under stored names. -/
def StreamBuild.Answers (names : Fin 3 → List UInt8) (uri : List UInt8) (number : Nat) : Prop :=
  AnswersAt (build.table names) uri number

/-- The command disturbs no other URI: when it says so, every URI other than the old and the new
name finds what it found before, the new name finds the stream, the old name does not find it any
more, and if another entry has the new name it finds what it found before. When it does not say
so, nothing is changed. -/
def Undisturbed : Prop :=
  let result := nameCommand stream build names value
  (result.2 = .ok →
    (∀ uri, uri ≠ 47 :: names stream → uri ≠ 47 :: value →
      build.find result.1 uri = build.find names uri) ∧
    build.find result.1 (47 :: value) = some (build.place stream) ∧
    (47 :: names stream ≠ 47 :: value →
      build.find result.1 (47 :: names stream) ≠ some (build.place stream)) ∧
    ((∃ number entry, number ≠ build.place stream ∧
        (build.table names)[number]? = some entry ∧ entry.name = 47 :: value) →
      build.find result.1 (47 :: value) = build.find names (47 :: value))) ∧
  (result.2 ≠ .ok → result.1 = names)

/-- When the command disturbs no other URI. A name that is stored already must not be answered
behind the stream. A new one may have one letter at most and must be the name of no other entry,
and the old one must have one letter at most or be answered behind the stream. -/
def Spared : Prop :=
  TakesName build stream value →
    if value = names stream then
      ∀ number, build.place stream < number → ¬build.Answers names (47 :: value) number
    else
      letters value ≤ 1 ∧
      (∀ number entry, number ≠ build.place stream →
        (build.table names)[number]? = some entry → entry.name ≠ 47 :: value) ∧
      (letters (names stream) ≤ 1 ∨
        ∃ number, build.place stream < number ∧ build.Answers names (47 :: names stream) number)

variable {build names stream value}

/-- The entry of the stream answers to its name. -/
theorem StreamBuild.answers_place {uri : List UInt8} :
    build.Answers names uri (build.place stream) ↔ SameUri (47 :: names stream) uri := by
  obtain ⟨row, found, buffer⟩ := Option.map_eq_some_iff.mp (build.placed stream)
  simp [StreamBuild.Answers, AnswersAt, StreamBuild.table, found, UriRow.named, buffer]

/-- The other entries of the table stay as they are. -/
theorem StreamBuild.table_update {number : Nat} (other : number ≠ build.place stream) :
    (build.table (Function.update names stream value))[number]? =
      (build.table names)[number]? := by
  simp only [StreamBuild.table, List.getElem?_map]
  cases found : build.rows[number]? with
  | none => rfl
  | some row =>
    have same : row.named (Function.update names stream value) = row.named names := by
      unfold UriRow.named
      cases buffer : row.buffer with
      | none => rfl
      | some kept =>
        have apart : kept ≠ stream := by
          rintro rfl
          exact other (build.single kept number (by rw [found, Option.map_some, buffer]))
        simp only [Function.update_of_ne apart]
    rw [Option.map_some, Option.map_some, same]

/-- The other entries answer as before. -/
theorem StreamBuild.answers_update {uri : List UInt8} {number : Nat}
    (other : number ≠ build.place stream) :
    build.Answers names uri number ↔
      build.Answers (Function.update names stream value) uri number := by
  simp only [StreamBuild.Answers, AnswersAt, StreamBuild.table_update other]

/-- A slash is no letter. -/
theorem letters_slash (name : List UInt8) : letters (47 :: name) = letters name := by
  simp [letters, isLetter]

/-- A URI finds the stream exactly when it is taken for its name and nothing behind answers. -/
theorem StreamBuild.find_eq_place {uri : List UInt8} :
    build.find names uri = some (build.place stream) ↔
      SameUri (47 :: names stream) uri ∧
        ∀ number, build.place stream < number → ¬build.Answers names uri number := by
  rw [StreamBuild.find, httpUriNumber_eq_some, ← StreamBuild.answers_place]
  rfl

/-- URIs that are taken for one another are answered by the same entries. -/
theorem StreamBuild.Answers.same {uri uri' : List UInt8} {number : Nat}
    (answers : build.Answers names uri number) (same : SameUri uri uri') :
    build.Answers names uri' number := by
  obtain ⟨entry, found, taken⟩ := answers
  exact ⟨entry, found, taken.trans same⟩

/-- After the renaming a URI finds the stream exactly when it is taken for the new name and
nothing behind the stream answered before. -/
theorem StreamBuild.find_renamed {uri : List UInt8} :
    build.find (Function.update names stream value) uri = some (build.place stream) ↔
      SameUri (47 :: value) uri ∧
        ∀ number, build.place stream < number → ¬build.Answers names uri number := by
  rw [StreamBuild.find_eq_place, Function.update_self]
  refine and_congr_right fun _ => forall₂_congr fun number behind => ?_
  rw [← StreamBuild.answers_update (by omega)]

/-- A URI that is taken neither for the old nor for the new name finds what it found. -/
theorem StreamBuild.find_other {uri : List UInt8} (old : ¬SameUri (47 :: names stream) uri)
    (new : ¬SameUri (47 :: value) uri) :
    build.find (Function.update names stream value) uri = build.find names uri := by
  refine (httpUriNumber_congr fun number => ?_).symm
  by_cases here : number = build.place stream
  · subst here
    apply iff_of_false
    · exact fun answers => old (StreamBuild.answers_place.mp answers)
    · intro answers
      have taken := StreamBuild.answers_place.mp answers
      rw [Function.update_self] at taken
      exact new taken
  · exact StreamBuild.answers_update here

/-- A URI that is answered behind the stream finds what it found. -/
theorem StreamBuild.find_behind {uri : List UInt8}
    (behind : ∃ number, build.place stream < number ∧ build.Answers names uri number) :
    build.find (Function.update names stream value) uri = build.find names uri :=
  (httpUriNumber_congr_of_later (fun _ other => StreamBuild.answers_update other) behind).symm

/-- A renaming that meets the condition disturbs no other URI. -/
theorem undisturbed_of_spared (new : value ≠ names stream) (single : letters value ≤ 1)
    (unused : ∀ number entry, number ≠ build.place stream →
      (build.table names)[number]? = some entry → entry.name ≠ 47 :: value)
    (old : letters (names stream) ≤ 1 ∨
      ∃ number, build.place stream < number ∧ build.Answers names (47 :: names stream) number) :
    (∀ uri, uri ≠ 47 :: names stream → uri ≠ 47 :: value →
      build.find (Function.update names stream value) uri = build.find names uri) ∧
    build.find (Function.update names stream value) (47 :: value) = some (build.place stream) ∧
    build.find (Function.update names stream value) (47 :: names stream) ≠
      some (build.place stream) := by
  have only : ∀ uri, SameUri (47 :: value) uri → uri = 47 :: value :=
    sameUri_only_iff.mpr (by rwa [letters_slash])
  refine ⟨fun uri notOld notNew => ?_, ?_, ?_⟩
  · have missed : ¬SameUri (47 :: value) uri := fun same => notNew (only uri same)
    by_cases taken : SameUri (47 :: names stream) uri
    · rcases old with few | ⟨number, behind, answers⟩
      · exact absurd (sameUri_only_iff.mpr (by rwa [letters_slash]) uri taken) notOld
      · exact StreamBuild.find_behind ⟨number, behind, answers.same taken⟩
    · exact StreamBuild.find_other taken missed
  · refine StreamBuild.find_renamed.mpr ⟨.refl _, fun number behind answers => ?_⟩
    obtain ⟨entry, found, taken⟩ := answers
    exact unused number entry (by omega) found (only _ taken.symm)
  · intro found
    have same := only _ (StreamBuild.find_renamed.mp found).1
    exact new (List.cons.inj same).2.symm

/-- A renaming that disturbs no other URI meets the condition. -/
theorem spared_of_undisturbed
    (kept : ∀ uri, uri ≠ 47 :: names stream → uri ≠ 47 :: value →
      build.find (Function.update names stream value) uri = build.find names uri)
    (found : build.find (Function.update names stream value) (47 :: value) =
      some (build.place stream))
    (lost : build.find (Function.update names stream value) (47 :: names stream) ≠
      some (build.place stream))
    (pages : (∃ number entry, number ≠ build.place stream ∧
        (build.table names)[number]? = some entry ∧ entry.name = 47 :: value) →
      build.find (Function.update names stream value) (47 :: value) =
        build.find names (47 :: value)) :
    letters value ≤ 1 ∧
    (∀ number entry, number ≠ build.place stream →
      (build.table names)[number]? = some entry → entry.name ≠ 47 :: value) ∧
    (letters (names stream) ≤ 1 ∨
      ∃ number, build.place stream < number ∧
        build.Answers names (47 :: names stream) number) := by
  have last := (StreamBuild.find_renamed.mp found).2
  -- Otherwise the old name would still find the stream.
  have apart : ¬SameUri (47 :: value) (47 :: names stream) := by
    intro same
    refine lost (StreamBuild.find_renamed.mpr ⟨same, fun number behind answers => ?_⟩)
    exact last number behind (answers.same same.symm)
  refine ⟨?_, ?_, ?_⟩
  · rw [← letters_slash, ← sameUri_only_iff]
    intro uri same
    by_contra differs
    have notOld : uri ≠ 47 :: names stream := by
      rintro rfl
      exact apart same
    have now : build.find (Function.update names stream value) uri = some (build.place stream) :=
      StreamBuild.find_renamed.mpr
        ⟨same, fun number behind answers => last number behind (answers.same same.symm)⟩
    rw [kept uri notOld differs] at now
    exact apart (same.trans (StreamBuild.find_eq_place.mp now).1.symm)
  · intro number entry other held named
    have before := pages ⟨number, entry, other, held, named⟩
    rw [found] at before
    exact apart (StreamBuild.find_eq_place.mp before.symm).1.symm
  · by_contra neither
    obtain ⟨many, alone⟩ := not_or.mp neither
    have second : ∃ uri, SameUri (47 :: names stream) uri ∧ uri ≠ 47 :: names stream := by
      by_contra none
      rw [← letters_slash, ← sameUri_only_iff] at many
      refine many fun uri same => ?_
      by_contra differs
      exact none ⟨uri, same, differs⟩
    obtain ⟨uri, same, differs⟩ := second
    have notNew : uri ≠ 47 :: value := by
      rintro rfl
      exact apart same.symm
    have before : build.find names uri = some (build.place stream) :=
      StreamBuild.find_eq_place.mpr
        ⟨same, fun number behind answers => alone ⟨number, behind, answers.same same.symm⟩⟩
    rw [← kept uri differs notNew] at before
    exact apart ((StreamBuild.find_renamed.mp before).1.trans same.symm)

end Renaming

/-- A command disturbs no other URI exactly when it meets the condition. -/
theorem undisturbed_iff_spared (build : StreamBuild) (names : Fin 3 → List UInt8)
    (stream : Fin 3) (value : List UInt8) :
    Undisturbed build names stream value ↔ Spared build names stream value := by
  unfold Undisturbed Spared
  rcases nameCommand_cases build names stream value with ⟨takes, result⟩ | ⟨kept, same, answer⟩
  · simp only [result, takes, forall_const, ne_eq, not_true_eq_false, false_implies, and_true]
    by_cases new : value = names stream
    · subst new
      simp only [Function.update_eq_self, if_pos, not_true_eq_false, false_implies, implies_true,
        true_and, and_true]
      rw [StreamBuild.find_eq_place]
      simp
    · have apart : 47 :: names stream ≠ 47 :: value :=
        fun same => new (List.cons.inj same).2.symm
      rw [if_neg new]
      constructor
      · rintro ⟨others, found, lost, pages⟩
        exact spared_of_undisturbed others found (lost apart) pages
      · rintro ⟨single, unused, old⟩
        obtain ⟨others, found, lost⟩ := undisturbed_of_spared new single unused old
        refine ⟨others, found, fun _ => lost, ?_⟩
        rintro ⟨number, entry, other, held, named⟩
        exact absurd named (unused number entry other held)
  · simp [answer, same, kept]

/-- In every run of the commands, no command disturbs another URI exactly when each one meets the
condition in the state that it finds: it does not take its value, or the value is the name of the
stream already and nothing behind the stream answers to it, or it has one letter at most, is no
other entry's name, and the old name has one letter at most or is answered behind the stream. -/
theorem rename_undisturbed_iff (build : StreamBuild) (names : Fin 3 → List UInt8)
    (commands : List (Fin 3 × List UInt8)) :
    Throughout (renamed build)
        (fun names command => Undisturbed build names command.1 command.2) names commands ↔
      Throughout (renamed build)
        (fun names command => Spared build names command.1 command.2) names commands :=
  throughout_congr fun names (command : Fin 3 × List UInt8) =>
    undisturbed_iff_spared build names command.1 command.2

/-- A table with the three streams and the page `/vb.htm` behind them. -/
def smallBuild : StreamBuild where
  rows := [⟨some 0, ⟨[], true, 2, true, false⟩⟩, ⟨some 1, ⟨[], true, 2, true, false⟩⟩,
    ⟨some 2, ⟨[], true, 2, true, false⟩⟩, ⟨none, ⟨ascii "/vb.htm", true, 3, true, false⟩⟩]
  place := Fin.val
  placed := by decide
  single := by
    intro stream number held
    match number with
    | 0 | 1 | 2 | 3 => revert stream; decide
    | number + 4 => simp at held
  maxWebProfileNum := 3
  profileNum := 4
  maxLen := fun _ => 32

/-- The stored names of the streams `ab`, `2` and `3`. -/
def smallNames : Fin 3 → List UInt8
  | 0 => ascii "ab"
  | 1 => ascii "2"
  | 2 => ascii "3"

/-- The first stream takes the name of a page: the command says so, and the name finds the page.
The first stream is renamed to `4`, which no entry has: `/AB`, which found it, finds nothing. -/
theorem rename_disturbs :
    ¬Throughout (renamed smallBuild)
      (fun names (command : Fin 3 × List UInt8) =>
        Undisturbed smallBuild names command.1 command.2) smallNames [(0, ascii "vb.htm")] ∧
    ¬Throughout (renamed smallBuild)
      (fun names (command : Fin 3 × List UInt8) =>
        Undisturbed smallBuild names command.1 command.2) smallNames [(0, ascii "4")] := by
  constructor
  · rintro ⟨undisturbed, -⟩
    have found := (undisturbed.1 (by decide)).2.1
    exact absurd found (by decide)
  · rintro ⟨undisturbed, -⟩
    have same := (undisturbed.1 (by decide)).1 (ascii "/AB") (by decide) (by decide)
    exact absurd same (by decide)

end BoaIpcam
