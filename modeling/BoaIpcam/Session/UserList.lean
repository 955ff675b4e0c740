import BoaIpcam.Numeral
import BoaIpcam.Session.System

/-!
# The list of the accounts

`uri_user_list` and `uri_user_del` of `request.c` count the accounts and then look at that many
slots from the first one on: the list at one more, the search for a group and the deletion at
exactly as many. A free slot before an account keeps it from being seen.
-/
namespace BoaIpcam

namespace Server

variable (build : Build) (s : Server)

/-- The slot holds an account. -/
def occupied (i : Nat) : Bool := (s.accounts i).name ≠ []

/-- `user_cnt`. -/
def userCnt : Nat := ((List.range build.acountNum).filter s.occupied).length

/-- The line of a slot. -/
def userLine (i : Nat) : List UInt8 :=
  (s.accounts i).name ++ ascii "=" ++ decimal (s.accounts i).authority ++ ascii "\r\n"

/-- The lines of the accounts among the first slots. -/
def userLines (slots : Nat) : List UInt8 :=
  ((List.range slots).filter s.occupied).flatMap s.userLine

/-- The lines about the account that is found. -/
def groupLines (i : Nat) : List UInt8 :=
  ascii "password=********\r\n" ++ ascii "group=" ++ decimal (s.accounts i).authority ++
    ascii "\r\n"

/-- The line with the number of the accounts. -/
def usersLine (count : Nat) : List UInt8 := ascii "users=" ++ decimal count ++ ascii "\r\n"

/-- `uri_user_list`: the text it assembles. The slot behind the table is what is read there. -/
def userList (args : List (List UInt8 × List UInt8)) : List UInt8 :=
  match args with
  | [] => usersLine (s.userCnt build) ++ s.userLines (s.userCnt build + 1)
  | (name, value) :: _ =>
    if name = ascii "name" then
      match (List.range (s.userCnt build)).find? fun i => (s.accounts i).name = value with
      | some i => s.groupLines i
      | none => []
    else []

/-! ## What is asked of the pages -/

/-- The list has one line for each account of the table. -/
def ListsAll : Prop :=
  s.userList build [] = usersLine (s.userCnt build) ++ s.userLines build.acountNum

/-- Some account of the table has the name. -/
def Registered (name : List UInt8) (i : Nat) : Prop :=
  i < build.acountNum ∧ s.occupied i = true ∧ (s.accounts i).name = name

/-- The group of an account with the name is reported when there is one. -/
def FindsGroup (name : List UInt8) : Prop :=
  (∃ i, s.Registered build name i) →
    ∃ i, s.Registered build name i ∧ s.userList build [(ascii "name", name)] = s.groupLines i

/-- The slot holds an account with the name, and may be cleared. -/
def Removable (value : List UInt8) (i : Nat) : Prop :=
  i < build.acountNum ∧ s.occupied i = true ∧ StrCaseEq value (s.accounts i).name ∧
    Deletable build i

/-- An account with the name is deleted when there is one in a slot that may be cleared. -/
def DeletesNamed (rounds : Nat) (req : Request) (value : List UInt8) : Prop :=
  (∃ i, s.Removable build value i) →
    ∃ i, s.Removable build value i ∧ s.userDel build rounds req value =
      (s.clearAccount build rounds i value).map fun s =>
        (ascii "username=" ++ value ++ ascii "\r\n", s)

/-! ## When the pages see the accounts -/

variable {build s}

/-- There are at most as many accounts as slots. -/
theorem userCnt_le : s.userCnt build ≤ build.acountNum := by
  have fewer := List.length_filter_le s.occupied (List.range build.acountNum)
  rwa [List.length_range] at fewer

/-- A line has a byte. -/
theorem userLine_ne_nil (i : Nat) : s.userLine i ≠ [] := by
  intro empty
  have none := (List.append_eq_nil_iff.mp empty).2
  exact absurd none (by decide)

/-- The lines of more slots are the same lines when the other slots are free. -/
theorem userLines_eq_iff {few many : Nat} (le : few ≤ many) :
    s.userLines few = s.userLines many ↔ ∀ i, few ≤ i → i < many → s.occupied i = false := by
  obtain ⟨more, rfl⟩ := Nat.exists_eq_add_of_le le
  have split : s.userLines (few + more) = s.userLines few ++
      ((((List.range more).map (few + ·)).filter s.occupied).flatMap s.userLine) := by
    unfold userLines
    rw [List.range_add, List.filter_append, List.flatMap_append]
  rw [split, List.self_eq_append_right, List.flatMap_eq_nil_iff]
  constructor
  · intro none i least below
    by_contra busy
    rw [Bool.not_eq_false] at busy
    have among : i ∈ ((List.range more).map (few + ·)).filter s.occupied := by
      apply List.mem_filter.mpr ⟨List.mem_map.mpr ⟨i - few, ?_, ?_⟩, busy⟩
      · exact List.mem_range.mpr (by omega)
      · omega
    exact userLine_ne_nil i (none i among)
  · intro free i member
    obtain ⟨among, busy⟩ := List.mem_filter.mp member
    obtain ⟨k, below, rfl⟩ := List.mem_map.mp among
    have bound := List.mem_range.mp below
    rw [free _ (Nat.le_add_right _ _) (by omega)] at busy
    exact absurd busy (by decide)

/-- The list is complete exactly when no account is behind the slot with their number, and nothing
is read as an account behind a full table. -/
theorem listsAll_iff :
    s.ListsAll build ↔
      (∀ i < build.acountNum, s.occupied i = true → i ≤ s.userCnt build) ∧
      (s.userCnt build = build.acountNum → s.occupied build.acountNum = false) := by
  have most : s.userCnt build ≤ build.acountNum := userCnt_le
  unfold ListsAll userList
  rw [List.append_cancel_left_eq]
  rcases Nat.lt_or_eq_of_le most with holes | full
  · rw [userLines_eq_iff holes]
    constructor
    · intro free
      refine ⟨fun i below busy => ?_, fun full => absurd full (Nat.ne_of_lt holes)⟩
      by_contra behind
      rw [free i (Nat.lt_of_not_le behind) below] at busy
      exact absurd busy (by decide)
    · rintro ⟨seen, -⟩ i least below
      by_contra busy
      rw [Bool.not_eq_false] at busy
      exact absurd (seen i below busy) (by omega)
  · rw [full, eq_comm, userLines_eq_iff (Nat.le_succ _)]
    constructor
    · intro free
      refine ⟨fun i below _ => Nat.le_of_lt below, fun _ => ?_⟩
      exact free build.acountNum le_rfl (Nat.lt_succ_self _)
    · rintro ⟨-, free⟩ i least below
      have last : i = build.acountNum := by omega
      rw [last]
      exact free rfl

/-- The group is found exactly when one of the first accounts, as many as there are, has the name
that an account of the table has. -/
theorem findsGroup_iff (name : List UInt8) :
    s.FindsGroup build name ↔
      ((∃ i, s.Registered build name i) →
        ∃ i, i < s.userCnt build ∧ (s.accounts i).name = name) := by
  unfold FindsGroup
  apply imp_congr_right
  rintro ⟨k, -, busy, named⟩
  have solid : name ≠ [] := by
    rw [← named]
    exact of_decide_eq_true busy
  have text : s.userList build [(ascii "name", name)] =
      match (List.range (s.userCnt build)).find? fun i => (s.accounts i).name = name with
      | some i => s.groupLines i
      | none => [] := by
    rw [userList, if_pos rfl]
  rw [text]
  cases found : (List.range (s.userCnt build)).find? fun i => (s.accounts i).name = name with
  | none =>
    have absent := List.find?_eq_none.mp found
    constructor
    · rintro ⟨i, -, same⟩
      have none := (List.append_eq_nil_iff.mp same.symm).2
      exact absurd none (by decide)
    · rintro ⟨i, below, same⟩
      exact absurd (decide_eq_true same) (absent i (List.mem_range.mpr below))
  | some i =>
    have below := List.mem_range.mp (List.mem_of_find?_eq_some found)
    have same : (s.accounts i).name = name := by simpa using List.find?_some found
    constructor
    · exact fun _ => ⟨i, below, same⟩
    · intro _
      have busy : s.occupied i = true := by
        unfold occupied
        rw [same]
        exact decide_eq_true solid
      exact ⟨i, ⟨Nat.lt_of_lt_of_le below userCnt_le, busy, same⟩, rfl⟩

/-- The account is deleted exactly when the first slot with the name may be cleared and is one of
the first slots, as many as there are accounts. -/
theorem deletesNamed_iff {rounds : Nat} {req : Request} (admin : req.authority = build.admin)
    (value : List UInt8) :
    s.DeletesNamed build rounds req value ↔
      ((∃ i, s.Removable build value i) →
        ∃ i, i < s.userCnt build ∧ StrCaseEq value (s.accounts i).name ∧ Deletable build i ∧
          ∀ j < i, ¬StrCaseEq value (s.accounts j).name) := by
  unfold DeletesNamed
  apply imp_congr_right
  rintro ⟨k, -, busy, named, -⟩
  have solid : value ≠ [] := by
    rintro rfl
    have empty := strCaseEq_nil_right.mp named.symm
    exact of_decide_eq_true busy empty
  have missing (unfound : s.userDelSlot build value = none) :
      s.userDel build rounds req value = some ([], s) := by
    unfold userDel deleteAccount
    rw [unfound]
    exact if_pos admin
  have handled {i : Nat} (found : s.userDelSlot build value = some i) :
      s.userDel build rounds req value =
        if Deletable build i then
          (s.clearAccount build rounds i value).map fun s =>
            (ascii "username=" ++ value ++ ascii "\r\n", s)
        else some ([], s) := by
    unfold userDel deleteAccount
    rw [found]
    exact if_pos admin
  have refused (i : Nat) : some ([], s) ≠ (s.clearAccount build rounds i value).map fun s =>
      (ascii "username=" ++ value ++ ascii "\r\n", s) := by
    intro same
    obtain ⟨after, -, answer⟩ := Option.map_eq_some_iff.mp same.symm
    have none := (List.append_eq_nil_iff.mp (congrArg Prod.fst answer)).2
    exact absurd none (by decide)
  cases found : s.userDelSlot build value with
  | none =>
    rw [missing found]
    have absent := List.find?_eq_none.mp found
    constructor
    · rintro ⟨i, -, same⟩
      exact absurd same (refused i)
    · rintro ⟨i, below, same, -⟩
      exact absurd (decide_eq_true same) (absent i (List.mem_range.mpr below))
  | some i =>
    rw [handled found]
    have below : i < s.userCnt build := List.mem_range.mp (List.mem_of_find?_eq_some found)
    have same : StrCaseEq value (s.accounts i).name := userDelSlot_named found
    have first : ∀ j < i, ¬StrCaseEq value (s.accounts j).name := by
      intro j before
      have none := (List.find?_range_eq_some.mp found).2.2 j before
      simpa using none
    by_cases clearable : Deletable build i
    · simp only [if_pos clearable]
      constructor
      · exact fun _ => ⟨i, below, same, clearable, first⟩
      · intro _
        have occupied : s.occupied i = true := by
          apply decide_eq_true
          intro empty
          rw [empty, strCaseEq_nil_right] at same
          exact solid same
        exact ⟨i, ⟨Nat.lt_of_lt_of_le below userCnt_le, occupied, same, clearable⟩, rfl⟩
    · simp only [if_neg clearable]
      constructor
      · rintro ⟨j, -, answer⟩
        exact absurd answer (refused j)
      · rintro ⟨j, jBelow, jSame, jClearable, jFirst⟩
        rcases Nat.lt_trichotomy i j with before | equal | behind
        · exact absurd same (jFirst i before)
        · exact absurd (equal ▸ jClearable) clearable
        · exact absurd jSame (first j behind)

/-- For every account table: the list is complete exactly when no account is behind the slot with
the number of the accounts and nothing is read as one behind a full table; a group is reported
exactly when a slot below that number has the name; and an administrator deletes an account
exactly when the first slot with the name is below that number and may be cleared. -/
theorem users_seen (build : Build) (s : Server) :
    (s.ListsAll build ↔
      (∀ i < build.acountNum, s.occupied i = true → i ≤ s.userCnt build) ∧
      (s.userCnt build = build.acountNum → s.occupied build.acountNum = false)) ∧
    (∀ name, s.FindsGroup build name ↔
      ((∃ i, s.Registered build name i) →
        ∃ i, i < s.userCnt build ∧ (s.accounts i).name = name)) ∧
    ∀ rounds req value, req.authority = build.admin →
      (s.DeletesNamed build rounds req value ↔
        ((∃ i, s.Removable build value i) →
          ∃ i, i < s.userCnt build ∧ StrCaseEq value (s.accounts i).name ∧ Deletable build i ∧
            ∀ j < i, ¬StrCaseEq value (s.accounts j).name)) :=
  ⟨listsAll_iff, findsGroup_iff, fun _ _ value admin => deletesNamed_iff admin value⟩

/-- The administrator and an account behind two free slots. -/
def holedAccounts : Nat → Account
  | 0 => ⟨ascii "admin", ascii "a", 0⟩
  | 3 => ⟨ascii "bob", ascii "b", 1⟩
  | _ => ⟨[], [], 3⟩

/-- The second account of a table without free slots before it is deleted. -/
theorem users_seen_small :
    (boot smallAccounts 0).DeletesNamed .small 4 ⟨0, 0, none, 0⟩ (ascii "BOB") :=
  ((users_seen .small (boot smallAccounts 0)).2.2 4 ⟨0, 0, none, 0⟩ (ascii "BOB") rfl).mpr
    fun _ => ⟨1, by decide, by decide, by decide, by decide⟩

/-- The account behind two free slots is not listed, its group is not found, and it is not
deleted. -/
theorem account_behind_holes_unseen :
    ¬(boot holedAccounts 0).ListsAll .small ∧
    ¬(boot holedAccounts 0).FindsGroup .small (ascii "bob") ∧
    ¬(boot holedAccounts 0).DeletesNamed .small 4 ⟨0, 0, none, 0⟩ (ascii "bob") := by
  refine ⟨?_, ?_, ?_⟩
  · rw [listsAll_iff]
    rintro ⟨seen, -⟩
    exact absurd (seen 3 (by decide) (by decide)) (by decide)
  · rw [findsGroup_iff]
    intro finds
    obtain ⟨i, below, named⟩ := finds ⟨3, by decide, by decide, by decide⟩
    have absent : ∀ i < 2, (holedAccounts i).name ≠ ascii "bob" := by decide
    exact absent i below named
  · rw [deletesNamed_iff rfl]
    intro deletes
    obtain ⟨i, below, named, -⟩ := deletes ⟨3, by decide, by decide, by decide, by decide⟩
    have absent : ∀ i < 2, ¬StrCaseEq (ascii "bob") (holedAccounts i).name := by decide
    exact absent i below named

end Server

end BoaIpcam
