import Mathlib.Data.List.Basic

/-!
# Walks in a tree of directories

A directory is the list of the names that lead to it from the root, and a path is a list of steps.
A path can be reduced before it is known where it starts: every name cancels with the step up
behind it, and what is left climbs a number of times and then goes down. From that one reads off
where the path leads, and whether it ends below the directory it starts in.
-/
namespace Directories

variable {ν : Type}

/-- A step of a path. -/
inductive Step (ν : Type) where
  | stay
  | up
  | down (name : ν)
deriving DecidableEq, Repr

/-- The directory behind a step. The root is its own parent. -/
def enter (dir : List ν) : Step ν → List ν
  | .stay => dir
  | .up => dir.dropLast
  | .down name => dir ++ [name]

/-- The directory behind a path. -/
def walk (dir : List ν) (steps : List (Step ν)) : List ν := steps.foldl enter dir

/-- A path without a step up behind a name: so many steps up, and then the names. -/
structure Reduced (ν : Type) where
  /-- The steps up. -/
  climbs : Nat
  /-- The names behind them. -/
  names : List ν
deriving DecidableEq, Repr

namespace Reduced

/-- A reduced path with one more step. -/
def extend (path : Reduced ν) : Step ν → Reduced ν
  | .stay => path
  | .up =>
    if path.names.isEmpty then { path with climbs := path.climbs + 1 }
    else { path with names := path.names.dropLast }
  | .down name => { path with names := path.names ++ [name] }

/-- The directory behind a reduced path. -/
def follow (path : Reduced ν) (dir : List ν) : List ν :=
  dir.take (dir.length - path.climbs) ++ path.names

/-- The path names again what it climbs out of. -/
def Returns (path : Reduced ν) (dir : List ν) : Prop :=
  dir.drop (dir.length - path.climbs) <+: path.names

instance [DecidableEq ν] (path : Reduced ν) (dir : List ν) : Decidable (path.Returns dir) :=
  inferInstanceAs (Decidable (_ <+: _))

end Reduced

/-- The reduced form of a path. -/
def reduce (steps : List (Step ν)) : Reduced ν := steps.foldl Reduced.extend ⟨0, []⟩

/-- A walk goes on where its first part ends. -/
theorem walk_append (dir : List ν) (first second : List (Step ν)) :
    walk dir (first ++ second) = walk (walk dir first) second :=
  List.foldl_append

/-- A walk that only goes down. -/
theorem walk_down (dir names : List ν) : walk dir (names.map .down) = dir ++ names := by
  induction names generalizing dir with
  | nil => simp [walk]
  | cons name rest ih =>
    have deeper := ih (dir ++ [name])
    simp only [List.append_assoc, List.singleton_append] at deeper
    exact deeper

/-- What holds of the names of the start and of the steps holds of the names of the end. -/
theorem forall_mem_walk {p : ν → Prop} {dir : List ν} {steps : List (Step ν)}
    (start : ∀ name ∈ dir, p name) (stepped : ∀ name, .down name ∈ steps → p name) :
    ∀ name ∈ walk dir steps, p name := by
  induction steps generalizing dir with
  | nil => exact start
  | cons step rest ih =>
    apply ih
    · intro name member
      cases step with
      | stay => exact start name member
      | up => exact start name ((List.dropLast_sublist dir).subset member)
      | down last =>
        rcases List.mem_append.mp member with before | here
        · exact start name before
        · rw [List.mem_singleton.mp here]
          exact stepped last List.mem_cons_self
    · intro name member
      exact stepped name (List.mem_cons_of_mem step member)

/-- One step after a reduced path is one step more in it. -/
theorem Reduced.enter_follow (path : Reduced ν) (dir : List ν) (step : Step ν) :
    enter (path.follow dir) step = (path.extend step).follow dir := by
  cases step with
  | stay => rfl
  | up =>
    cases names : path.names with
    | nil =>
      simp only [enter, extend, follow, names, List.isEmpty_nil, if_true, List.append_nil]
      rw [List.dropLast_eq_take, List.take_take, List.length_take]
      congr 1
      omega
    | cons name rest =>
      simp only [enter, extend, follow, names, List.isEmpty_cons, Bool.false_eq_true, if_false]
      exact List.dropLast_append_of_ne_nil (List.cons_ne_nil name rest)
  | down name => simp [enter, extend, follow]

/-- A walk leads where its reduced form leads. -/
theorem walk_eq_follow (dir : List ν) (steps : List (Step ν)) :
    walk dir steps = (reduce steps).follow dir := by
  have general : ∀ path : Reduced ν,
      steps.foldl enter (path.follow dir) = (steps.foldl Reduced.extend path).follow dir := by
    induction steps with
    | nil => exact fun path => rfl
    | cons step rest ih =>
      intro path
      rw [List.foldl_cons, List.foldl_cons, path.enter_follow]
      exact ih (path.extend step)
  have start : Reduced.follow ⟨0, []⟩ dir = dir := by simp [Reduced.follow]
  have whole := general ⟨0, []⟩
  rw [start] at whole
  exact whole

/-- A reduced path ends below its start exactly when it names again what it climbs out of. -/
theorem Reduced.prefix_follow_iff (path : Reduced ν) (dir : List ν) :
    dir <+: path.follow dir ↔ path.Returns dir := by
  have parts := List.take_append_drop (dir.length - path.climbs) dir
  unfold follow Returns
  nth_rewrite 1 [← parts]
  exact List.prefix_append_right_inj _

/-- A reduced path ends at its start exactly when it names again just what it climbs out of. -/
theorem Reduced.follow_eq_iff (path : Reduced ν) (dir : List ν) :
    path.follow dir = dir ↔ path.names = dir.drop (dir.length - path.climbs) := by
  have parts := List.take_append_drop (dir.length - path.climbs) dir
  unfold follow
  nth_rewrite 3 [← parts]
  rw [List.append_cancel_left_eq]

/-- A path that starts in a directory ends below its sibling exactly when it climbs and names
again what it climbs out of, with the sibling in place of its start. -/
theorem Reduced.sibling_follow_iff (path : Reduced ν) (parent : List ν) {name other : ν}
    (apart : other ≠ name) :
    parent ++ [name] <+: path.follow (parent ++ [other]) ↔
      0 < path.climbs ∧ path.Returns (parent ++ [name]) := by
  rcases Nat.eq_zero_or_pos path.climbs with still | climbs
  · -- without a climb the path stays below the other directory
    have below : path.follow (parent ++ [other]) = parent ++ [other] ++ path.names := by
      rw [follow, still, Nat.sub_zero, List.take_length]
    rw [below, List.append_assoc, List.prefix_append_right_inj, List.singleton_append,
      List.cons_prefix_cons, still]
    constructor
    · intro same
      exact absurd same.1.symm apart
    · intro climbs
      exact absurd climbs.1 (Nat.lt_irrefl 0)
  · have same : path.follow (parent ++ [other]) = path.follow (parent ++ [name]) := by
      have short : parent.length + 1 - path.climbs ≤ parent.length := by omega
      simp only [follow, List.length_append, List.length_singleton]
      rw [List.take_append_of_le_length short, List.take_append_of_le_length short]
    rw [same, path.prefix_follow_iff]
    exact (and_iff_right climbs).symm

/-- The parent of a directory below another one is below it too, unless they are the same. -/
theorem prefix_dropLast_iff {base dir : List ν} (below : base <+: dir) (inside : base ≠ []) :
    base <+: dir.dropLast ↔ dir ≠ base := by
  obtain ⟨rest, rfl⟩ := below
  cases rest with
  | nil =>
    rw [List.append_nil]
    constructor
    · intro shorter
      have positive : 0 < base.length := List.length_pos_iff.mpr inside
      have bound := shorter.length_le
      rw [List.length_dropLast] at bound
      omega
    · intro same
      exact absurd rfl same
  | cons name rest =>
    rw [List.dropLast_append_of_ne_nil (List.cons_ne_nil name rest)]
    constructor
    · intro _ same
      have equal := congrArg List.length same
      simp at equal
    · intro _
      exact List.prefix_append base _

end Directories
