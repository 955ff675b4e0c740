import BoaIpcam.Rtsp.SpropMarks

/-!
# When the parameter sets are complete

The text of `GetSpropParameterSets` is right when both sets were first seen in one frame and a start
code follows each of them in the bytes that were copied. When one was seen in a frame before, its
place and its length are used on other bytes.
-/
namespace BoaIpcam.Sprop

open Prefixes

/-! ## What is asked -/

/-- `profile_level_id` from the bytes as unsigned values. -/
def unsignedId (levelBytes : List UInt8) : Nat :=
  (levelBytes.getD 0 0).toNat * 65536 + (levelBytes.getD 1 0).toNat * 256 +
    (levelBytes.getD 2 0).toNat

/-- Both sets are NAL units of one frame, and the three bytes behind the head of the SPS are those
that are there. -/
def FromOne (frames : List (List UInt8)) (sps pps levelBytes : List UInt8) : Prop :=
  ∃ frame ∈ frames, ∃ spsPlace ppsPlace, HasUnit isSps frame spsPlace sps ∧
    HasUnit isPps frame ppsPlace pps ∧ levelBytes = (frame.drop (spsPlace + 1)).take 3

/-- The function has read what was copied only, and when it has returned, the sets in its text are
complete and `profile_level_id` is made of unsigned values. -/
def Outcome.Right : Outcome → Prop
  | .waiting => True
  | .outside => False
  | .returned answer frames =>
    FromOne frames answer.sps answer.pps answer.levelBytes ∧
      answer.profileLevelId = unsignedId answer.levelBytes

/-- The frames that are taken: up to the first with which both sets are seen. -/
def framesTaken (frames : List (List UInt8)) : List (List UInt8) :=
  upTo (fun taken => SeesBoth (metIn taken)) [] frames

/-- The bytes have no high bit where a `char` has a sign. -/
def LevelFits (signedChar : Bool) (levelBytes : List UInt8) : Prop :=
  signedChar = true → ∀ c ∈ levelBytes, c.toNat < 128

/-- Another start code is met behind the first set of a type. -/
def Followed (isType : UInt8 → Bool) (codes : List Code) : Prop :=
  ∃ front code next rest, codes = front ++ code :: next :: rest ∧ isType code.head ∧
    ¬ Sees isType front

/-- What stands in the last frame where the sets were seen first. -/
def StandsThere (signedChar : Bool) (taken : List (List UInt8)) (last : List UInt8) : Prop :=
  ∃ spsPlace ppsPlace sps pps levelBytes,
    (setsIn taken).sps.place = some spsPlace ∧ (setsIn taken).pps.place = some ppsPlace ∧
      bytesFrom (copied last) (spsPlace + 1) 3 = some levelBytes ∧
      bytesFrom (copied last) spsPlace (setsIn taken).sps.length = some sps ∧
      bytesFrom (copied last) ppsPlace (setsIn taken).pps.length = some pps ∧
      FromOne taken sps pps levelBytes ∧ LevelFits signedChar levelBytes

/-- The last frame shows both sets. When neither was seen before, a start code is met behind each, and
the bytes behind the head of the SPS have no high bit where a `char` has a sign. When one was seen
before, the bytes of this frame at its old place make up such a set all the same. -/
structure Shown (signedChar : Bool) (before : List (List UInt8)) (last : List UInt8) : Prop where
  /-- Both sets are in the last frame. -/
  together : ¬ Sees isSps (metIn before) → ¬ Sees isPps (metIn before) →
    (Followed isSps (codesOf last) ∧ Followed isPps (codesOf last)) ∧
      ∀ place, (firstSet isSps (codesOf last)).place = some place →
        LevelFits signedChar ((last.drop (place + 1)).take 3)
  /-- One of them was seen before. -/
  apart : Sees isSps (metIn before) ∨ Sees isPps (metIn before) →
    StandsThere signedChar (before ++ [last]) last

/-! ## One set -/

variable {isType : UInt8 → Bool}

/-- A set that is followed has the length of its NAL unit. -/
theorem Followed.unit {frame : List UInt8} {codes : List Code}
    (met : codesFrom (copied frame) 0 = some codes) (followed : Followed isType codes)
    (typed : ∀ head, isType head → isSps head ∨ isPps head) :
    ∃ place length unit, firstSet isType codes = ⟨some place, length⟩ ∧
      bytesFrom (copied frame) place length = some unit ∧ HasUnit isType frame place unit ∧
      bytesFrom (copied frame) (place + 1) 3 = some ((frame.drop (place + 1)).take 3) := by
  obtain ⟨front, code, next, rest, rfl, isTyped, none⟩ := followed
  obtain ⟨order, inside, nal, headed⟩ := unit_of_codes met (typed code.head isTyped)
  have first : firstSet isType (front ++ code :: next :: rest) =
      ⟨some code.nal, (next.begin : Int) - code.nal⟩ := by
    rw [firstSet_append none, firstSet, if_pos isTyped, lengthFrom_cons, if_pos (by omega)]
  have cut (place count : Nat) (fits : place + count ≤ (copied frame).length) :
      bytesFrom (copied frame) place count = some ((frame.drop place).take count) := by
    have bound : place + count ≤ maxH264Header := by
      rw [copied, List.length_take] at fits
      omega
    rw [bytesFrom, if_pos ⟨by omega, by omega⟩, copied, List.drop_take, List.take_take]
    congr 2
    omega
  have length : (next.begin : Int) - code.nal = ((next.begin - code.nal : Nat) : Int) := by omega
  refine ⟨code.nal, _, _, first, ?_, ⟨_, code.head, nal, headed, isTyped, rfl⟩, ?_⟩
  · rw [length]
    exact cut _ _ (by omega)
  · exact cut (code.nal + 1) 3 (by omega)

/-- A set that is not followed has no length. -/
theorem firstSet_open {codes : List Code} (sees : Sees isType codes)
    (notFollowed : ¬ Followed isType codes) : (firstSet isType codes).length = 0 := by
  obtain ⟨front, code, later, rfl, typed, none, same⟩ := firstSet_split sees
  cases later with
  | nil =>
    rw [same]
    exact lengthFrom_nil code.nal
  | cons next rest => exact absurd ⟨front, code, next, rest, rfl, typed, none⟩ notFollowed

/-- Without a length there is no set. -/
theorem not_hasUnit_of_open {header frame unit : List UInt8} {place other : Nat}
    (taken : bytesFrom header place 0 = some unit) : ¬ HasUnit isType frame other unit := by
  intro has
  obtain ⟨head, rest, same, _⟩ := has.head
  rw [bytesFrom] at taken
  split_ifs at taken with fits
  obtain rfl := Option.some.inj taken
  exact absurd same (List.cons_ne_nil head rest).symm

/-- Where a zero stands there is no set. -/
theorem not_hasUnit_of_zero {header frame unit : List UInt8} {place other : Nat} {length : Int}
    (proper : isType 0 = false) (zero : header[place]? = some 0)
    (taken : bytesFrom header place length = some unit) : ¬ HasUnit isType frame other unit := by
  intro has
  obtain ⟨head, rest, same, typed⟩ := has.head
  rw [bytesFrom] at taken
  split_ifs at taken with fits
  have front : unit[0]? = some head := by rw [same, List.getElem?_cons_zero]
  rw [← Option.some.inj taken, List.getElem?_take] at front
  split_ifs at front
  rw [List.getElem?_drop, Nat.add_zero, zero] at front
  rw [← Option.some.inj front, proper] at typed
  exact absurd typed Bool.false_ne_true

/-- The unsigned value is that of the bytes without a high bit. -/
theorem levelId_iff (signedChar : Bool) {levelBytes : List UInt8} (three : levelBytes.length = 3) :
    levelId signedChar levelBytes = unsignedId levelBytes ↔ LevelFits signedChar levelBytes := by
  match levelBytes, three with
  | [a, b, c], _ =>
    have first := a.toNat_lt
    have second := b.toNat_lt
    have third := c.toNat_lt
    have all : LevelFits signedChar [a, b, c] ↔
        (signedChar = true → a.toNat < 128 ∧ b.toNat < 128 ∧ c.toNat < 128) := by
      simp [LevelFits]
    rw [all]
    show ((charValue signedChar a * 65536 + charValue signedChar b * 256 +
      charValue signedChar c) % 4294967296).toNat = a.toNat * 65536 + b.toNat * 256 + c.toNat ↔ _
    cases signedChar with
    | false =>
      simp only [charValue, Bool.false_eq_true, false_and, ↓reduceIte, false_implies, iff_true]
      omega
    | true =>
      simp only [charValue, true_and, true_implies]
      split_ifs <;> omega

/-! ## The last frame -/

variable {signedChar : Bool} {before : List (List UInt8)} {last : List UInt8} {codes : List Code}

/-- So many bytes are as many. -/
theorem length_of_bytesFrom {header bytes : List UInt8} {place count : Nat}
    (taken : bytesFrom header place count = some bytes) : bytes.length = count := by
  rw [bytesFrom] at taken
  split_ifs at taken with fits
  rw [← Option.some.inj taken, List.length_take, List.length_drop]
  omega

/-- The function returns rightly when the sets that it has read are complete. -/
theorem ofAnswer_right_iff (signedChar : Bool) (frames : List (List UInt8)) (header : List UInt8)
    (spsPlace ppsPlace : Nat) (sets : Sets) :
    (Outcome.ofAnswer frames (finish signedChar header spsPlace ppsPlace sets)).Right ↔
      ∃ sps pps levelBytes, bytesFrom header (spsPlace + 1) 3 = some levelBytes ∧
        bytesFrom header spsPlace sets.sps.length = some sps ∧
        bytesFrom header ppsPlace sets.pps.length = some pps ∧
        FromOne frames sps pps levelBytes ∧ LevelFits signedChar levelBytes := by
  rw [finish]
  cases level : bytesFrom header (spsPlace + 1) 3 with
  | none => exact iff_of_false id fun ⟨_, _, _, absent, _⟩ => Option.some_ne_none _ absent.symm
  | some levelBytes =>
    cases sps : bytesFrom header spsPlace sets.sps.length with
    | none => exact iff_of_false id fun ⟨_, _, _, _, absent, _⟩ => Option.some_ne_none _ absent.symm
    | some spsBytes =>
      cases pps : bytesFrom header ppsPlace sets.pps.length with
      | none =>
        exact iff_of_false id fun ⟨_, _, _, _, _, absent, _⟩ => Option.some_ne_none _ absent.symm
      | some ppsBytes =>
        have fits := levelId_iff signedChar (length_of_bytesFrom level)
        show FromOne frames spsBytes ppsBytes levelBytes ∧
          levelId signedChar levelBytes = unsignedId levelBytes ↔ _
        rw [fits]
        constructor
        · exact fun right => ⟨spsBytes, ppsBytes, levelBytes, rfl, rfl, rfl, right⟩
        · rintro ⟨_, _, _, sameLevel, sameSps, samePps, right⟩
          rw [Option.some.inj sameLevel, Option.some.inj sameSps, Option.some.inj samePps]
          exact right

/-- When both sets are seen in the last frame, they stand there when a start code follows each. -/
theorem standsThere_together (met : codesFrom (copied last) 0 = some codes)
    (noSps : ¬ Sees isSps (metIn before)) (noPps : ¬ Sees isPps (metIn before))
    (seesSps : Sees isSps codes) (seesPps : Sees isPps codes) :
    StandsThere signedChar (before ++ [last]) last ↔
      (Followed isSps codes ∧ Followed isPps codes) ∧
        ∀ place, (firstSet isSps codes).place = some place →
          LevelFits signedChar ((last.drop (place + 1)).take 3) := by
  have own : codesOf last = codes := by rw [codesOf, met, Option.getD_some]
  have sets : setsIn (before ++ [last]) = ⟨firstSet isSps codes, firstSet isPps codes⟩ := by
    rw [setsIn, metIn_append, own, firstSet_append noSps, firstSet_append noPps]
  rw [StandsThere, sets]
  constructor
  · rintro ⟨spsPlace, ppsPlace, sps, pps, levelBytes, spsAt, ppsAt, level, spsTaken, ppsTaken,
      ⟨frame, _, place, other, hasSps, hasPps, _⟩, fits⟩
    have spsFollowed : Followed isSps codes := by
      by_contra notFollowed
      rw [firstSet_open seesSps notFollowed] at spsTaken
      exact not_hasUnit_of_open spsTaken hasSps
    have ppsFollowed : Followed isPps codes := by
      by_contra notFollowed
      rw [firstSet_open seesPps notFollowed] at ppsTaken
      exact not_hasUnit_of_open ppsTaken hasPps
    refine ⟨⟨spsFollowed, ppsFollowed⟩, fun there same => ?_⟩
    obtain ⟨_, _, _, first, _, _, behindHead⟩ := spsFollowed.unit met fun _ => .inl
    rw [first] at same spsAt
    obtain rfl := Option.some.inj same
    obtain rfl := Option.some.inj spsAt
    rw [behindHead] at level
    rw [Option.some.inj level]
    exact fits
  · rintro ⟨⟨spsFollowed, ppsFollowed⟩, fits⟩
    obtain ⟨spsPlace, spsLength, sps, spsFirst, spsTaken, hasSps, level⟩ :=
      spsFollowed.unit met fun _ => .inl
    obtain ⟨ppsPlace, ppsLength, pps, ppsFirst, ppsTaken, hasPps, _⟩ :=
      ppsFollowed.unit met fun _ => .inr
    have place : (firstSet isSps codes).place = some spsPlace := by rw [spsFirst]
    rw [spsFirst, ppsFirst]
    refine ⟨spsPlace, ppsPlace, sps, pps, _, rfl, rfl, level, spsTaken, ppsTaken, ?_,
      fits spsPlace place⟩
    exact ⟨last, List.mem_append_right _ (List.mem_singleton_self last), spsPlace, ppsPlace, hasSps,
      hasPps, rfl⟩

/-- The last frame shows both sets when they stand there. -/
theorem shown_iff (met : codesFrom (copied last) 0 = some codes)
    (sees : SeesBoth (metIn (before ++ [last]))) :
    Shown signedChar before last ↔ StandsThere signedChar (before ++ [last]) last := by
  have own : codesOf last = codes := by rw [codesOf, met, Option.getD_some]
  by_cases seen : Sees isSps (metIn before) ∨ Sees isPps (metIn before)
  · constructor
    · exact fun shown => shown.apart seen
    · intro stands
      exact ⟨fun noSps noPps => absurd seen (not_or.mpr ⟨noSps, noPps⟩), fun _ => stands⟩
  · obtain ⟨noSps, noPps⟩ := not_or.mp seen
    have later {isType : UInt8 → Bool} (none : ¬ Sees isType (metIn before))
        (all : Sees isType (metIn (before ++ [last]))) : Sees isType codes := by
      rw [metIn_append, own, Sees] at all
      obtain ⟨code, there, typed⟩ := all
      rcases List.mem_append.mp there with early | there
      · exact absurd ⟨code, early, typed⟩ none
      · exact ⟨code, there, typed⟩
    rw [standsThere_together met noSps noPps (later noSps sees.1) (later noPps sees.2), ← own]
    constructor
    · exact fun shown => shown.together noSps noPps
    · exact fun all => ⟨fun _ _ => all, fun some => absurd some seen⟩

/-! ## A scan that ends early -/

/-- The sets of a scan that has ended early are empty. -/
theorem not_right_of_stops (signedChar : Bool) (frames : List (List UInt8)) (header : List UInt8)
    (spsPlace ppsPlace : Nat) {sets : Sets} (stops : sets.Stops) :
    ¬ (Outcome.ofAnswer frames (finish signedChar header spsPlace ppsPlace sets)).Right := by
  rw [ofAnswer_right_iff]
  rintro ⟨sps, pps, levelBytes, _, spsTaken, _, ⟨frame, _, place, _, hasSps, _, _⟩, _⟩
  have zero : sets.sps.length = 0 := stops.2.2.1
  rw [zero] at spsTaken
  exact not_hasUnit_of_open spsTaken hasSps

/-- A first set without a length, which was seen before, has a zero at its place. -/
theorem zero_at_place {front rest : List Code} {code : Code}
    (met : codesFrom (copied last) 0 = some (front ++ code :: rest))
    (seen : Sees isType (metIn before))
    (zero : (firstSet isType (metIn before ++ (front ++ [code]))).length = 0) :
    ∃ place, (firstSet isType (metIn before ++ (front ++ code :: rest))).place = some place ∧
      (copied last)[place]? = some 0 := by
  obtain ⟨place, later, same⟩ := firstSet_seen seen
  rw [same] at zero
  have here : code.begin = place := by
    apply lengthFrom_eq_zero zero
    simp
  have starts := ((codesFrom_sorted met).1 code (by simp)).2.1
  refine ⟨place, ?_, ?_⟩
  · rw [same]
  · rw [← here]
    exact starts

/-- A first set without a length, which was not seen before, is at the last start code. -/
theorem typed_of_open {front rest : List Code} {code : Code}
    (met : codesFrom (copied last) 0 = some (front ++ code :: rest)) (proper : isType 0 = false)
    (sees : Sees isType (front ++ [code]))
    (zero : (firstSet isType (front ++ [code])).length = 0) : isType code.head := by
  obtain ⟨others, first, later, whole, typed, _, same⟩ := firstSet_split sees
  have starts (other : Code) (there : other ∈ others ++ first :: later) :
      (copied last)[other.begin]? = some 0 ∧ (copied last)[other.nal]? = some other.head := by
    rw [← whole] at there
    apply ((codesFrom_sorted met).1 other _).2
    rw [List.append_cons]
    exact List.mem_append_left _ there
  rw [same] at zero
  cases later with
  | nil =>
    have same := (List.append_inj_right' whole rfl)
    rw [List.singleton_inj.mp same]
    exact typed
  | cons next later =>
    -- a start code would begin where the head of the set stands
    have here : next.begin = first.nal := lengthFrom_eq_zero zero next List.mem_cons_self
    have headed := (starts first (by simp)).2
    have blank := (starts next (by simp)).1
    rw [here, headed] at blank
    rw [Option.some.inj blank, proper] at typed
    exact absurd typed Bool.false_ne_true

/-- Where the scan ends early both sets are seen. -/
theorem seesBoth_of_stops {front rest : List Code} {code : Code}
    (met : codesFrom (copied last) 0 = some (front ++ code :: rest))
    (stops : ((setsIn before).follow (front ++ [code])).Stops) :
    SeesBoth (metIn (before ++ [last])) := by
  have own : codesOf last = front ++ code :: rest := by rw [codesOf, met, Option.getD_some]
  have more {isType : UInt8 → Bool} (sees : Sees isType (metIn before ++ (front ++ [code]))) :
      Sees isType (metIn (before ++ [last])) := by
    obtain ⟨other, there, typed⟩ := sees
    refine ⟨other, ?_, typed⟩
    rw [metIn_append, own, List.append_cons, ← List.append_assoc]
    exact List.mem_append_left _ there
  rw [setsIn_follow] at stops
  exact ⟨more ((firstSet_place _).mp stops.1), more ((firstSet_place _).mp stops.2.1)⟩

/-- Where the scan ends early the last frame does not show both sets. -/
theorem not_shown_of_stops {front rest : List Code} {code : Code}
    (met : codesFrom (copied last) 0 = some (front ++ code :: rest))
    (stops : ((setsIn before).follow (front ++ [code])).Stops) : ¬ Shown signedChar before last := by
  have own : codesOf last = front ++ code :: rest := by rw [codesOf, met, Option.getD_some]
  rw [shown_iff met (seesBoth_of_stops met stops)]
  rw [setsIn_follow] at stops
  obtain ⟨spsPlaced, ppsPlaced, spsOpen, ppsOpen⟩ := stops
  rintro ⟨spsPlace, ppsPlace, sps, pps, levelBytes, spsAt, ppsAt, _, spsTaken, ppsTaken,
    ⟨frame, _, place, other, hasSps, hasPps, _⟩, _⟩
  simp only [setsIn, metIn_append, own] at spsAt ppsAt
  by_cases seenSps : Sees isSps (metIn before)
  · obtain ⟨old, at_old, zero⟩ := zero_at_place met seenSps spsOpen
    rw [at_old] at spsAt
    obtain rfl := Option.some.inj spsAt
    exact not_hasUnit_of_zero (by decide) zero spsTaken hasSps
  by_cases seenPps : Sees isPps (metIn before)
  · obtain ⟨old, at_old, zero⟩ := zero_at_place met seenPps ppsOpen
    rw [at_old] at ppsAt
    obtain rfl := Option.some.inj ppsAt
    exact not_hasUnit_of_zero (by decide) zero ppsTaken hasPps
  -- one start code would lead to both sets
  rw [firstSet_append seenSps] at spsOpen spsPlaced
  rw [firstSet_append seenPps] at ppsOpen ppsPlaced
  have sps := typed_of_open met (by decide) ((firstSet_place _).mp spsPlaced) spsOpen
  have pps := typed_of_open met (by decide) ((firstSet_place _).mp ppsPlaced) ppsOpen
  simp only [isSps, isPps, decide_eq_true_eq] at sps pps
  rw [sps] at pps
  exact absurd pps (by decide)

/-! ## The frames -/

/-- When some frames lead to a right text: no run of zeros is followed behind the bytes that were
copied, and when both sets are seen, the last frame shows them. -/
structure Exact (signedChar : Bool) (taken : List (List UInt8)) : Prop where
  /-- No run of zeros is followed too far. -/
  inside : ∀ frame ∈ taken, codesFrom (copied frame) 0 ≠ .none
  /-- The last frame shows both sets. -/
  shows : ∀ before last, taken = before ++ [last] → SeesBoth (metIn taken) →
    Shown signedChar before last

/-- When both sets are seen with a frame, it is the one that has to show them. -/
theorem exact_seen_iff (inside : ∀ frame ∈ before ++ [last], codesFrom (copied frame) 0 ≠ .none)
    (both : SeesBoth (metIn (before ++ [last]))) :
    Exact signedChar (before ++ [last]) ↔ Shown signedChar before last := by
  constructor
  · exact fun exact => exact.shows before last rfl both
  · intro shown
    refine ⟨inside, fun others other same _ => ?_⟩
    obtain ⟨sameBefore, sameLast⟩ := List.append_inj' same rfl
    rw [← sameBefore, ← List.singleton_inj.mp sameLast]
    exact shown

/-- What stands at places that are known. -/
theorem standsThere_iff {taken : List (List UInt8)} {spsPlace ppsPlace : Nat}
    (spsAt : (setsIn taken).sps.place = some spsPlace)
    (ppsAt : (setsIn taken).pps.place = some ppsPlace) :
    StandsThere signedChar taken last ↔
      ∃ sps pps levelBytes, bytesFrom (copied last) (spsPlace + 1) 3 = some levelBytes ∧
        bytesFrom (copied last) spsPlace (setsIn taken).sps.length = some sps ∧
        bytesFrom (copied last) ppsPlace (setsIn taken).pps.length = some pps ∧
        FromOne taken sps pps levelBytes ∧ LevelFits signedChar levelBytes := by
  rw [StandsThere, spsAt, ppsAt]
  constructor
  · rintro ⟨_, _, sps, pps, levelBytes, sameSps, samePps, stands⟩
    rw [← Option.some.inj sameSps, ← Option.some.inj samePps] at stands
    exact ⟨sps, pps, levelBytes, stands⟩
  · rintro ⟨sps, pps, levelBytes, stands⟩
    exact ⟨spsPlace, ppsPlace, sps, pps, levelBytes, rfl, rfl, stands⟩

/-- Behind a frame with which both sets are seen, the function returns. -/
theorem getSpropParameterSets_seen (signedChar : Bool) (taken later : List (List UInt8))
    {frame : List UInt8} {sets found : Sets} (scanned : scan (copied frame) 0 sets = some found)
    (spsPlaced : found.sps.place ≠ .none) (ppsPlaced : found.pps.place ≠ .none) :
    ∃ spsPlace ppsPlace, found.sps.place = some spsPlace ∧ found.pps.place = some ppsPlace ∧
      getSpropParameterSets signedChar taken sets (frame :: later) =
        .ofAnswer (taken ++ [frame]) (finish signedChar (copied frame) spsPlace ppsPlace found) := by
  obtain ⟨spsPlace, spsAt⟩ := Option.ne_none_iff_exists'.mp spsPlaced
  obtain ⟨ppsPlace, ppsAt⟩ := Option.ne_none_iff_exists'.mp ppsPlaced
  refine ⟨spsPlace, ppsPlace, spsAt, ppsAt, ?_⟩
  rw [getSpropParameterSets]
  simp only [scanned, spsAt, ppsAt]

/-- Behind a frame with which a set is missing, the function asks for another. -/
theorem getSpropParameterSets_next {taken later : List (List UInt8)} {frame : List UInt8}
    {sets found : Sets} (scanned : scan (copied frame) 0 sets = some found)
    (missing : found.sps.place = .none ∨ found.pps.place = .none) :
    getSpropParameterSets signedChar taken sets (frame :: later) =
      getSpropParameterSets signedChar (taken ++ [frame]) found later := by
  rw [getSpropParameterSets]
  simp only [scanned]
  rcases missing with spsAt | ppsAt
  · simp only [spsAt]
  · cases found.sps.place <;> simp only [ppsAt]

/-- A scan that ends early leads to a wrong text. -/
theorem getSpropParameterSets_stops {taken later : List (List UInt8)} {frame : List UInt8}
    {sets found : Sets} (scanned : scan (copied frame) 0 sets = some found) (stops : found.Stops) :
    ¬ (getSpropParameterSets signedChar taken sets (frame :: later)).Right := by
  obtain ⟨spsPlace, ppsPlace, _, _, same⟩ :=
    getSpropParameterSets_seen signedChar taken later scanned stops.1 stops.2.1
  rw [same]
  exact not_right_of_stops signedChar _ _ _ _ stops

/-- A frame that cannot be read inside leads to no right text. -/
theorem getSpropParameterSets_outside {taken later : List (List UInt8)} {frame : List UInt8}
    {sets : Sets} (outside : codesFrom (copied frame) 0 = .none) :
    ¬ (getSpropParameterSets signedChar taken sets (frame :: later)).Right := by
  cases scanned : scan (copied frame) 0 sets with
  | none =>
    rw [getSpropParameterSets]
    simp only [scanned]
    exact id
  | some found => exact getSpropParameterSets_stops scanned (scan_of_none outside scanned)

/-- From the sets of the frames that were taken, which did not show both, the text is right when the
frames that are taken lead to one. -/
theorem getSpropParameterSets_right_iff (signedChar : Bool) (taken frames : List (List UInt8))
    (inside : ∀ frame ∈ taken, codesFrom (copied frame) 0 ≠ .none)
    (missing : ¬ SeesBoth (metIn taken)) :
    (getSpropParameterSets signedChar taken (setsIn taken) frames).Right ↔
      Exact signedChar (upTo (fun taken => SeesBoth (metIn taken)) taken frames) := by
  induction frames generalizing taken with
  | nil =>
    rw [getSpropParameterSets, upTo]
    exact iff_of_true trivial ⟨inside, fun _ _ _ both => absurd both missing⟩
  | cons frame later ih =>
    have own : frame ∈ upTo (fun taken => SeesBoth (metIn taken)) taken (frame :: later) := by
      rw [upTo]
      split_ifs
      · exact List.mem_append_right _ (List.mem_singleton_self frame)
      · have front : ∃ more, upTo (fun taken => SeesBoth (metIn taken)) (taken ++ [frame]) later =
            taken ++ [frame] ++ more := upTo_front _ _
        obtain ⟨more, same⟩ := front
        rw [same]
        exact List.mem_append_left _ (List.mem_append_right _ (List.mem_singleton_self frame))
    cases met : codesFrom (copied frame) 0 with
    | none =>
      exact iff_of_false (getSpropParameterSets_outside met) fun exact => exact.inside frame own met
    | some codes =>
      have scanned := scan_of_codes (setsIn taken) met
      have codesOwn : codesOf frame = codes := by rw [codesOf, met, Option.getD_some]
      have followed : (setsIn taken).follow codes = setsIn (taken ++ [frame]) := by
        rw [setsIn_follow, setsIn, metIn_append, codesOwn]
      have insideMore : ∀ other ∈ taken ++ [frame], codesFrom (copied other) 0 ≠ .none := by
        intro other there
        rcases List.mem_append.mp there with before | same
        · exact inside other before
        · rw [List.mem_singleton.mp same, met]
          exact Option.some_ne_none codes
      rcases Sets.run_cases (setsIn taken) codes with whole | ⟨front, code, rest, rfl, early, stops⟩
      · rw [whole, followed] at scanned
        rw [upTo]
        split_ifs with both
        · have spsPlaced := (firstSet_place _).mpr both.1
          have ppsPlaced := (firstSet_place _).mpr both.2
          obtain ⟨spsPlace, ppsPlace, spsAt, ppsAt, same⟩ :=
            getSpropParameterSets_seen signedChar taken later scanned spsPlaced ppsPlaced
          rw [same, ofAnswer_right_iff, exact_seen_iff insideMore both, shown_iff met both,
            standsThere_iff spsAt ppsAt]
        · have missing' : (setsIn (taken ++ [frame])).sps.place = .none ∨
              (setsIn (taken ++ [frame])).pps.place = .none := by
            by_contra placed
            rw [not_or] at placed
            exact both ⟨(firstSet_place _).mp placed.1, (firstSet_place _).mp placed.2⟩
          rw [getSpropParameterSets_next scanned missing']
          exact ih (taken ++ [frame]) insideMore both
      · refine iff_of_false (getSpropParameterSets_stops scanned stops) ?_
        rw [early] at stops
        have both := seesBoth_of_stops met stops
        rw [upTo, if_pos both, exact_seen_iff insideMore both]
        exact not_shown_of_stops met stops

/-- For every sequence of frames, nothing behind the bytes that were copied is read and a text that is
written is right exactly when the frames that are taken lead to one. -/
theorem sprop_parameter_sets_iff (signedChar : Bool) (frames : List (List UInt8)) :
    (spropParameterSets signedChar frames).Right ↔ Exact signedChar (framesTaken frames) := by
  have none : ¬ SeesBoth (metIn []) := fun both => by
    obtain ⟨_, there, _⟩ := both.1
    exact List.not_mem_nil there
  exact getSpropParameterSets_right_iff signedChar [] frames (List.forall_mem_nil _) none

/-- A frame with an SPS and a PPS, of which the second ends with the frame. -/
def lastSetFrame : List UInt8 :=
  [0, 0, 0, 1, 0x67, 0x42, 0, 0x1e, 0x8d, 0, 0, 0, 1, 0x68, 0xce, 0x38, 0x80, 0x11]

/-- The scan of that frame meets two start codes. -/
theorem codesFrom_lastSetFrame : codesFrom (copied lastSetFrame) 0 =
    some [⟨0, 4, 0x67⟩, ⟨9, 13, 0x68⟩] := by
  have inside : ∀ ptr < 14, ptr + 4 < (copied lastSetFrame).length := by decide
  have sps : lookAt (copied lastSetFrame) 0 = .code 4 0x67 := by decide
  have pps : lookAt (copied lastSetFrame) 9 = .code 13 0x68 := by decide
  have atSps : lookAt (copied lastSetFrame) 4 = .skip 5 := by decide
  have second : lookAt (copied lastSetFrame) 5 = .skip 6 := by decide
  have third : lookAt (copied lastSetFrame) 6 = .skip 8 := by decide
  have fifth : lookAt (copied lastSetFrame) 8 = .skip 9 := by decide
  have atPps : lookAt (copied lastSetFrame) 13 = .skip 14 := by decide
  rw [codesFrom_code (inside 0 (by omega)) sps]
  show (codesFrom (copied lastSetFrame) 4).map _ = _
  rw [codesFrom_skip (inside 4 (by omega)) atSps, codesFrom_skip (inside 5 (by omega)) second,
    codesFrom_skip (inside 6 (by omega)) third, codesFrom_skip (inside 8 (by omega)) fifth,
    codesFrom_code (inside 9 (by omega)) pps]
  show ((codesFrom (copied lastSetFrame) 13).map _).map _ = _
  rw [codesFrom_skip (inside 13 (by omega)) atPps]
  rw [codesFrom_over (by decide)]
  rfl

/-- The PPS at the end of a frame is empty in the text. -/
theorem sprop_last_set_empty :
    spropParameterSets false [lastSetFrame] =
        .returned ⟨[0x67, 0x42, 0, 0x1e, 0x8d], [], [0x42, 0, 0x1e], 0x42001e⟩ [lastSetFrame] ∧
      ¬ (spropParameterSets false [lastSetFrame]).Right := by
  have returned : spropParameterSets false [lastSetFrame] =
      .returned ⟨[0x67, 0x42, 0, 0x1e, 0x8d], [], [0x42, 0, 0x1e], 0x42001e⟩ [lastSetFrame] := by
    rw [spropParameterSets, getSpropParameterSets, scan_of_codes _ codesFrom_lastSetFrame]
    rfl
  refine ⟨returned, fun right => ?_⟩
  rw [returned] at right
  obtain ⟨⟨frame, _, spsPlace, ppsPlace, _, hasPps, _⟩, _⟩ := right
  obtain ⟨head, rest, same, _⟩ := hasPps.head
  exact absurd same (List.cons_ne_nil head rest).symm

end BoaIpcam.Sprop
