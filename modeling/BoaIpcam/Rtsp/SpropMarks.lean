import BoaIpcam.Lib.Prefixes
import BoaIpcam.Rtsp.SpropCodes

/-!
# Where the parameter sets are seen

The start codes of all frames that were taken decide where the scan has seen the first SPS and the
first PPS and which lengths they have: a length is the distance to the next start code, even when that
is in another frame.
-/
namespace BoaIpcam.Sprop

variable {isType : UInt8 → Bool}

/-- The length of a set at a place, from the start codes behind it: the distance to the first of them
that is elsewhere. -/
def lengthFrom (place : Nat) (later : List Code) : Int :=
  ((later.map fun code => (code.begin : Int) - place).find? (· ≠ 0)).getD 0

/-- The first set of a type among some start codes. -/
def firstSet (isType : UInt8 → Bool) : List Code → Mark
  | [] => .none
  | code :: later =>
    if isType code.head then ⟨some code.nal, lengthFrom code.nal later⟩ else firstSet isType later

/-- The start codes in the bytes of a frame that are copied. -/
def codesOf (frame : List UInt8) : List Code := (codesFrom (copied frame) 0).getD []

/-- The start codes in some frames. -/
def metIn (frames : List (List UInt8)) : List Code := frames.flatMap codesOf

/-- The sets that are seen in some frames. -/
def setsIn (frames : List (List UInt8)) : Sets :=
  ⟨firstSet isSps (metIn frames), firstSet isPps (metIn frames)⟩

/-- A set of a type is seen. -/
def Sees (isType : UInt8 → Bool) (codes : List Code) : Prop := ∃ code ∈ codes, isType code.head

/-- Both sets are seen. -/
def SeesBoth (codes : List Code) : Prop := Sees isSps codes ∧ Sees isPps codes

instance (isType : UInt8 → Bool) (codes : List Code) : Decidable (Sees isType codes) :=
  inferInstanceAs (Decidable (∃ code ∈ codes, isType code.head = true))

instance (codes : List Code) : Decidable (SeesBoth codes) := inferInstanceAs (Decidable (_ ∧ _))

/-! ## The first set -/

/-- One mark behind some start codes. -/
def Mark.follow (isType : UInt8 → Bool) (mark : Mark) (codes : List Code) : Mark :=
  codes.foldl (fun mark code => (mark.close code.begin).enter (isType code.head) code.nal) mark

/-- Without a start code the length is open. -/
@[simp] theorem lengthFrom_nil (place : Nat) : lengthFrom place [] = 0 := rfl

/-- The length up to a start code elsewhere, or from those behind. -/
theorem lengthFrom_cons (place : Nat) (code : Code) (later : List Code) :
    lengthFrom place (code :: later) =
      if (code.begin : Int) - place ≠ 0 then (code.begin : Int) - place
      else lengthFrom place later := by
  rw [lengthFrom, List.map_cons, List.find?_cons]
  by_cases here : (code.begin : Int) - place = 0
  · rw [if_neg (not_not.mpr here), lengthFrom]
    simp only [here, ne_eq, not_true_eq_false, decide_false]
  · rw [if_pos here]
    simp only [ne_eq, here, not_false_eq_true, decide_true, Option.getD_some]

/-- The length is open only when all start codes behind are at the place itself. -/
theorem lengthFrom_eq_zero {place : Nat} {later : List Code} (zero : lengthFrom place later = 0) :
    ∀ code ∈ later, code.begin = place := by
  induction later with
  | nil => exact List.forall_mem_nil _
  | cons code later ih =>
    rw [lengthFrom_cons] at zero
    split_ifs at zero with elsewhere
    · exact absurd zero elsewhere
    · intro other there
      rcases List.mem_cons.mp there with rfl | there
      · omega
      · exact ih zero other there

/-- A set that was seen keeps its place, and its length once it has one. -/
theorem Mark.follow_some (isType : UInt8 → Bool) (place : Nat) (length : Int)
    (codes : List Code) :
    Mark.follow isType ⟨some place, length⟩ codes =
      ⟨some place, if length ≠ 0 then length else lengthFrom place codes⟩ := by
  induction codes generalizing length with
  | nil =>
    rw [Mark.follow, List.foldl_nil, lengthFrom_nil]
    split_ifs with zero
    · rfl
    · rw [not_not.mp zero]
  | cons code rest ih =>
    have closed : ((Mark.mk (some place) length).close code.begin).enter (isType code.head) code.nal =
        ⟨some place, if length = 0 then (code.begin : Int) - place else length⟩ := by
      simp only [Mark.close, Mark.enter]
      split_ifs <;> simp_all
    rw [Mark.follow, List.foldl_cons, closed]
    refine (ih _).trans ?_
    rw [lengthFrom_cons]
    congr 1
    split_ifs <;> omega

/-- From the start the first set is followed. -/
theorem Mark.follow_none (isType : UInt8 → Bool) (codes : List Code) :
    Mark.follow isType .none codes = firstSet isType codes := by
  induction codes with
  | nil => rfl
  | cons code rest ih =>
    rw [firstSet]
    split_ifs with typed
    · have entered : (Mark.none.close code.begin).enter (isType code.head) code.nal =
          ⟨some code.nal, 0⟩ := by
        rw [typed]
        rfl
      rw [Mark.follow, List.foldl_cons, entered]
      refine (Mark.follow_some isType code.nal 0 rest).trans ?_
      rw [if_neg (not_not.mpr rfl)]
    · have same : (Mark.none.close code.begin).enter (isType code.head) code.nal = .none := by
        simp only [Mark.close, Mark.enter, Mark.none, typed, Bool.false_eq_true, false_and,
          ↓reduceIte]
      rw [Mark.follow, List.foldl_cons, same]
      exact ih

/-- To follow some start codes and then others is to follow all. -/
theorem Mark.follow_append (isType : UInt8 → Bool) (mark : Mark) (front back : List Code) :
    Mark.follow isType mark (front ++ back) =
      Mark.follow isType (Mark.follow isType mark front) back := List.foldl_append

/-- The first set has a place when one is seen. -/
theorem firstSet_place (codes : List Code) : (firstSet isType codes).place ≠ .none ↔
    Sees isType codes := by
  induction codes with
  | nil => exact iff_of_false (not_not.mpr rfl) fun ⟨_, there, _⟩ => List.not_mem_nil there
  | cons code rest ih =>
    rw [firstSet, Sees, List.exists_mem_cons_iff]
    split_ifs with typed
    · exact iff_of_true (Option.some_ne_none _) (.inl typed)
    · rw [ih]
      exact (or_iff_right typed).symm

/-- The first set that is seen: those in front are of other types. -/
theorem firstSet_split {codes : List Code} (sees : Sees isType codes) :
    ∃ front code later, codes = front ++ code :: later ∧ isType code.head ∧
      (¬ Sees isType front) ∧ firstSet isType codes = ⟨some code.nal, lengthFrom code.nal later⟩ := by
  induction codes with
  | nil => exact absurd sees fun ⟨_, there, _⟩ => List.not_mem_nil there
  | cons code rest ih =>
    by_cases typed : isType code.head
    · refine ⟨[], code, rest, rfl, typed, fun ⟨_, there, _⟩ => List.not_mem_nil there, ?_⟩
      rw [firstSet, if_pos typed]
    · have later : Sees isType rest := by
        rw [Sees, List.exists_mem_cons_iff] at sees
        exact sees.resolve_left typed
      obtain ⟨front, found, behind, rfl, foundTyped, none, same⟩ := ih later
      refine ⟨code :: front, found, behind, rfl, foundTyped, ?_, ?_⟩
      · rw [Sees, List.exists_mem_cons_iff]
        exact not_or.mpr ⟨typed, none⟩
      · rw [firstSet, if_neg typed, same]

/-- Where no set is seen, those behind are the first. -/
theorem firstSet_append {front : List Code} (none : ¬ Sees isType front) (back : List Code) :
    firstSet isType (front ++ back) = firstSet isType back := by
  induction front with
  | nil => rfl
  | cons code rest ih =>
    rw [Sees, List.exists_mem_cons_iff, not_or] at none
    rw [List.cons_append, firstSet, if_neg none.1]
    exact ih none.2

/-- A set that was seen keeps its place, and its length is measured on. -/
theorem firstSet_seen {codes : List Code} (sees : Sees isType codes) :
    ∃ place behind, ∀ more,
      firstSet isType (codes ++ more) = ⟨some place, lengthFrom place (behind ++ more)⟩ := by
  obtain ⟨front, code, later, rfl, typed, none, _⟩ := firstSet_split sees
  refine ⟨code.nal, later, fun more => ?_⟩
  rw [List.append_assoc, firstSet_append none, List.cons_append, firstSet, if_pos typed]

/-! ## The scan of a frame -/

/-- The variables behind some start codes, without an early end. -/
def Sets.follow (sets : Sets) (codes : List Code) : Sets :=
  ⟨sets.sps.follow isSps codes, sets.pps.follow isPps codes⟩

/-- The scan follows the start codes, or it ends early behind some of them. -/
theorem Sets.run_cases (sets : Sets) (codes : List Code) :
    sets.run codes = sets.follow codes ∨
      ∃ front code rest, codes = front ++ code :: rest ∧
        sets.run codes = sets.follow (front ++ [code]) ∧ (sets.run codes).Stops := by
  induction codes generalizing sets with
  | nil => exact .inl rfl
  | cons code rest ih =>
    rw [Sets.run]
    split_ifs with stops
    · exact .inr ⟨[], code, rest, rfl, rfl, stops⟩
    · rcases ih (sets.meet code.begin code.nal code.head) with same | ⟨front, last, more, rfl, same, stopped⟩
      · exact .inl same
      · exact .inr ⟨code :: front, last, more, rfl, same, stopped⟩

/-- The start codes of one frame more. -/
theorem metIn_append (frames : List (List UInt8)) (frame : List UInt8) :
    metIn (frames ++ [frame]) = metIn frames ++ codesOf frame := by
  rw [metIn, List.flatMap_append, List.flatMap_singleton, metIn]

/-- The sets behind more start codes. -/
theorem setsIn_follow (frames : List (List UInt8)) (codes : List Code) :
    (setsIn frames).follow codes =
      ⟨firstSet isSps (metIn frames ++ codes), firstSet isPps (metIn frames ++ codes)⟩ := by
  simp only [Sets.follow, setsIn, ← Mark.follow_none, Mark.follow_append]

end BoaIpcam.Sprop
