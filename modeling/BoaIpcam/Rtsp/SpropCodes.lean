import BoaIpcam.Rtsp.SpropScan

/-!
# Start codes and NAL units

A start code is three or more zeros and a one. A NAL unit runs from behind a start code to the next
one, or to the end of the frame. The start codes that the scan meets depend on the bytes alone, and a
parameter set that is followed by another of them is a NAL unit of the frame.
-/
namespace BoaIpcam.Sprop

/-! ## NAL units -/

/-- Zeros from a position on and a one at another, at least three positions behind. -/
def StartCode (bytes : List UInt8) (first last : Nat) : Prop :=
  first + 3 ≤ last ∧ (∀ k, first ≤ k → k < last → bytes[k]? = some 0) ∧ bytes[last]? = some 1

/-- A NAL unit of some length at a position: it follows a start code, no start code begins in it, and
it ends where one begins or the bytes end. -/
structure NalUnit (bytes : List UInt8) (place length : Nat) : Prop where
  /-- It is behind a start code. -/
  follows : ∃ first last, StartCode bytes first last ∧ place = last + 1
  /-- It has its head. -/
  headed : 0 < length
  /-- It is inside the bytes. -/
  inside : place + length ≤ bytes.length
  /-- No start code begins in it. -/
  whole : ∀ k last, place ≤ k → k < place + length → ¬ StartCode bytes k last
  /-- A start code or the end is behind it. -/
  ends : place + length = bytes.length ∨ ∃ last, StartCode bytes (place + length) last

/-- Some bytes are the NAL unit of a type at a place. -/
def HasUnit (isType : UInt8 → Bool) (frame : List UInt8) (place : Nat) (unit : List UInt8) : Prop :=
  ∃ length head, NalUnit frame place length ∧ frame[place]? = some head ∧ isType head ∧
    unit = (frame.drop place).take length

/-- A NAL unit begins with its head. -/
theorem HasUnit.head {isType : UInt8 → Bool} {frame unit : List UInt8} {place : Nat}
    (has : HasUnit isType frame place unit) : ∃ head rest, unit = head :: rest ∧ isType head := by
  obtain ⟨length, head, nal, found, typed, rfl⟩ := has
  obtain ⟨inside, same⟩ := List.getElem?_eq_some_iff.mp found
  obtain ⟨more, rfl⟩ := Nat.exists_eq_succ_of_ne_zero (Nat.ne_of_gt nal.headed)
  refine ⟨head, (frame.drop (place + 1)).take more, ?_, typed⟩
  rw [List.drop_eq_getElem_cons inside, List.take_succ_cons, same]

/-! ## The start codes that are met -/

/-- A start code: where it begins, where its NAL unit does, and the head of that. -/
structure Code where
  /-- Where the zeros begin. -/
  begin : Nat
  /-- Where the unit begins. -/
  nal : Nat
  /-- The head of the unit. -/
  head : UInt8
deriving DecidableEq, Repr

/-- The start codes that are met from a position on. None when reading leaves the bytes. -/
def codesFrom (header : List UInt8) (ptr : Nat) : Option (List Code) :=
  if ptr + 4 < header.length then
    match _found : lookAt header ptr with
    | .skip next => codesFrom header next
    | .outside => .none
    | .code nal head => (codesFrom header (behind nal head)).map (⟨ptr, nal, head⟩ :: ·)
  else some []
termination_by header.length - ptr
decreasing_by
  · have further := lt_of_skip _found
    omega
  · have further := lt_of_code _found
    have more := le_behind nal head
    omega

section Equations

variable {header : List UInt8} {ptr nal next : Nat} {head : UInt8}

/-- Nothing is met near the end. -/
theorem codesFrom_over (beyond : ¬ ptr + 4 < header.length) : codesFrom header ptr = some [] := by
  rw [codesFrom, if_neg beyond]

/-- What is skipped is not met. -/
theorem codesFrom_skip (inside : ptr + 4 < header.length) (found : lookAt header ptr = .skip next) :
    codesFrom header ptr = codesFrom header next := by
  rw [codesFrom, if_pos inside]
  split <;> simp_all

/-- A start code is met in front of those behind it. -/
theorem codesFrom_code (inside : ptr + 4 < header.length)
    (found : lookAt header ptr = .code nal head) :
    codesFrom header ptr = (codesFrom header (behind nal head)).map (⟨ptr, nal, head⟩ :: ·) := by
  rw [codesFrom, if_pos inside]
  split <;> simp_all

/-- Nothing is met where reading leaves the bytes. -/
theorem codesFrom_outside (inside : ptr + 4 < header.length)
    (found : lookAt header ptr = .outside) : codesFrom header ptr = .none := by
  rw [codesFrom, if_pos inside]
  split <;> simp_all

end Equations

/-- The variables behind the start codes of a scan, which ends early when both sets have no length. -/
def Sets.run : Sets → List Code → Sets
  | sets, [] => sets
  | sets, code :: rest =>
    if (sets.meet code.begin code.nal code.head).Stops then sets.meet code.begin code.nal code.head
    else (sets.meet code.begin code.nal code.head).run rest

/-- The scan meets the start codes. -/
theorem scan_of_codes {header : List UInt8} {ptr : Nat} {codes : List Code} (sets : Sets)
    (met : codesFrom header ptr = some codes) : scan header ptr sets = some (sets.run codes) := by
  fun_induction scan header ptr sets generalizing codes with
  | case1 ptr sets inside next found ih =>
    rw [codesFrom_skip inside found] at met
    exact ih met
  | case2 ptr sets inside found =>
    rw [codesFrom_outside inside found] at met
    exact absurd met (Option.some_ne_none codes).symm
  | case3 ptr sets inside nal head found stops =>
    rw [codesFrom_code inside found] at met
    obtain ⟨rest, _, rfl⟩ := Option.map_eq_some_iff.mp met
    exact congrArg some (if_pos stops).symm
  | case4 ptr sets inside nal head found goes ih =>
    rw [codesFrom_code inside found] at met
    obtain ⟨rest, later, rfl⟩ := Option.map_eq_some_iff.mp met
    rw [ih later]
    exact congrArg some (if_neg goes).symm
  | case5 ptr sets beyond =>
    rw [codesFrom_over beyond] at met
    obtain rfl := Option.some.inj met
    rfl

/-- Where reading leaves the bytes the scan does so, or it has ended early. -/
theorem scan_of_none {header : List UInt8} {ptr : Nat} {sets last : Sets}
    (outside : codesFrom header ptr = .none) (scanned : scan header ptr sets = some last) :
    last.Stops := by
  fun_induction scan header ptr sets with
  | case1 ptr sets inside next found ih =>
    rw [codesFrom_skip inside found] at outside
    exact ih outside scanned
  | case2 ptr sets inside found => exact absurd scanned (Option.some_ne_none last).symm
  | case3 ptr sets inside nal head found stops =>
    obtain rfl := Option.some.inj scanned
    exact stops
  | case4 ptr sets inside nal head found goes ih =>
    rw [codesFrom_code inside found] at outside
    exact ih (Option.map_eq_none_iff.mp outside) scanned
  | case5 ptr sets beyond =>
    rw [codesFrom_over beyond] at outside
    exact absurd outside (Option.some_ne_none _)

/-! ## Where they are -/

/-- What is taken while it is zero is zero, and what follows is not. -/
theorem takeWhile_zero (bytes : List UInt8) :
    (∀ k < (bytes.takeWhile fun c => c = 0).length, bytes[k]? = some 0) ∧
      bytes[(bytes.takeWhile fun c => c = 0).length]? ≠ some 0 := by
  induction bytes with
  | nil => exact ⟨fun k below => absurd below (Nat.not_lt_zero k), by simp⟩
  | cons c rest ih =>
    by_cases zero : c = 0
    · rw [List.takeWhile_cons_of_pos (by simpa using zero), List.length_cons]
      constructor
      · intro k below
        cases k with
        | zero => rw [zero, List.getElem?_cons_zero]
        | succ k => exact ih.1 k (by omega)
      · exact ih.2
    · rw [List.takeWhile_cons_of_neg (by simpa using zero)]
      refine ⟨fun k below => absurd below (Nat.not_lt_zero k), fun same => ?_⟩
      exact zero (Option.some.inj same)

/-- The zeros at a position. -/
theorem zerosAt_zero {header : List UInt8} {ptr k : Nat} (low : ptr ≤ k)
    (high : k < ptr + zerosAt header ptr) : header[k]? = some 0 := by
  have zero := (takeWhile_zero (header.drop ptr)).1 (k - ptr) (by rw [zerosAt] at high; omega)
  rw [List.getElem?_drop, Nat.add_sub_cancel' low] at zero
  exact zero

/-- What follows the zeros at a position. -/
theorem zerosAt_end (header : List UInt8) (ptr : Nat) :
    header[ptr + zerosAt header ptr]? ≠ some 0 := by
  have stops := (takeWhile_zero (header.drop ptr)).2
  rw [List.getElem?_drop] at stops
  exact stops

/-- No start code begins in what is skipped. -/
theorem no_start_skipped {header : List UInt8} {ptr next : Nat}
    (skipped : lookAt header ptr = .skip next) {k last : Nat} (low : ptr ≤ k) (high : k < next) :
    ¬ StartCode header k last := by
  rintro ⟨long, zeros, one⟩
  have stops := zerosAt_end header ptr
  have reached : next = ptr + zerosAt header ptr + 1 ∧
      (3 ≤ zerosAt header ptr → header[ptr + zerosAt header ptr]? ≠ some 1) := by
    unfold lookAt at skipped
    grind
  obtain ⟨rfl, notOne⟩ := reached
  rcases Nat.lt_trichotomy last (ptr + zerosAt header ptr) with before | same | after
  · have zero : header[last]? = some 0 := zerosAt_zero (by omega) before
    rw [zero] at one
    exact absurd (Option.some.inj one) (by decide)
  · rw [same] at one
    exact notOne (by omega) one
  · exact stops (zeros _ (by omega) after)

/-- A start code that is met is one, and leads to its NAL unit. -/
theorem start_of_code {header : List UInt8} {ptr nal : Nat} {head : UInt8}
    (found : lookAt header ptr = .code nal head) :
    (∃ last, StartCode header ptr last ∧ nal = last + 1) ∧ header[nal]? = some head := by
  have reached : 3 ≤ zerosAt header ptr ∧ header[ptr + zerosAt header ptr]? = some 1 ∧
      nal = ptr + zerosAt header ptr + 1 ∧ header[nal]? = some head := by
    unfold lookAt at found
    grind
  obtain ⟨long, one, rfl, headed⟩ := reached
  refine ⟨⟨ptr + zerosAt header ptr, ⟨by omega, fun k low high => ?_, one⟩, rfl⟩, headed⟩
  exact zerosAt_zero low high

/-- A start code is the next one from a position on. -/
structure Code.Next (header : List UInt8) (ptr : Nat) (code : Code) : Prop where
  /-- It does not begin before the position. -/
  order : ptr ≤ code.begin
  /-- It is a start code. -/
  start : ∃ last, StartCode header code.begin last ∧ code.nal = last + 1
  /-- Its unit has this head. -/
  headed : header[code.nal]? = some code.head
  /-- None begins before it. -/
  first : ∀ k last, ptr ≤ k → k < code.begin → ¬ StartCode header k last

/-- The first start code that is met is the next one, and the others are met behind it. -/
theorem codesFrom_cons {header : List UInt8} {ptr : Nat} {code : Code} {rest : List Code}
    (met : codesFrom header ptr = some (code :: rest)) :
    code.Next header ptr ∧ codesFrom header (behind code.nal code.head) = some rest := by
  fun_induction codesFrom header ptr with
  | case1 ptr inside next skipped ih =>
    obtain ⟨found, later⟩ := ih met
    have further := lt_of_skip skipped
    have order := found.order
    refine ⟨⟨by omega, found.start, found.headed, fun k last low high => ?_⟩, later⟩
    by_cases before : k < next
    · exact no_start_skipped skipped low before
    · exact found.first k last (by omega) high
  | case2 ptr inside outside => exact absurd met (Option.some_ne_none _).symm
  | case3 ptr inside nal head found ih =>
    obtain ⟨others, later, same⟩ := Option.map_eq_some_iff.mp met
    obtain ⟨rfl, rfl⟩ := List.cons_eq_cons.mp same
    obtain ⟨start, headed⟩ := start_of_code found
    have empty : ∀ k last, ptr ≤ k → k < ptr → ¬ StartCode header k last :=
      fun k _ low high => absurd high (Nat.not_lt.mpr low)
    exact ⟨⟨Nat.le_refl ptr, start, headed, empty⟩, later⟩
  | case4 ptr beyond => exact absurd (Option.some.inj met).symm (List.cons_ne_nil _ _)

/-- A start code is in front of its NAL unit. -/
theorem Code.Next.begin_lt {header : List UInt8} {ptr : Nat} {code : Code}
    (next : code.Next header ptr) : code.begin < code.nal := by
  obtain ⟨last, ⟨long, _, _⟩, same⟩ := next.start
  omega

/-- A start code begins with a zero. -/
theorem Code.Next.begin_zero {header : List UInt8} {ptr : Nat} {code : Code}
    (next : code.Next header ptr) : header[code.begin]? = some 0 := by
  obtain ⟨last, ⟨long, zeros, _⟩, _⟩ := next.start
  exact zeros _ (Nat.le_refl _) (by omega)

/-- The start codes that are met follow each other, and each begins with a zero and leads to the head
of its NAL unit. -/
theorem codesFrom_sorted {header : List UInt8} {ptr : Nat} {codes : List Code}
    (met : codesFrom header ptr = some codes) :
    (∀ code ∈ codes, ptr ≤ code.begin ∧ header[code.begin]? = some 0 ∧
        header[code.nal]? = some code.head) ∧
      codes.Pairwise fun one two => one.nal ≤ two.begin := by
  induction codes generalizing ptr with
  | nil => exact ⟨List.forall_mem_nil _, .nil⟩
  | cons code rest ih =>
    obtain ⟨next, later⟩ := codesFrom_cons met
    obtain ⟨all, sorted⟩ := ih later
    have order := next.order
    have front := next.begin_lt
    have goes := le_behind code.nal code.head
    constructor
    · intro other there
      rcases List.mem_cons.mp there with rfl | there
      · exact ⟨order, next.begin_zero, next.headed⟩
      · obtain ⟨low, zero, head⟩ := all other there
        exact ⟨by omega, zero, head⟩
    · refine .cons (fun other there => ?_) sorted
      have low := (all other there).1
      omega

/-- The bytes that are copied are the first of the frame. -/
theorem copied_getElem? {frame : List UInt8} {k : Nat} {c : UInt8} :
    (copied frame)[k]? = some c ↔ frame[k]? = some c ∧ k < (copied frame).length := by
  have below (inside : k < (copied frame).length) : k < maxH264Header := by
    rw [copied, List.length_take] at inside
    omega
  constructor
  · intro there
    have inside := (List.getElem?_eq_some_iff.mp there).1
    rw [copied, List.getElem?_take_of_lt (below inside)] at there
    exact ⟨there, inside⟩
  · rintro ⟨there, inside⟩
    rw [copied, List.getElem?_take_of_lt (below inside)]
    exact there

/-- A start code in the bytes that are copied is one of the frame. -/
theorem StartCode.of_copied {frame : List UInt8} {first last : Nat}
    (start : StartCode (copied frame) first last) : StartCode frame first last := by
  obtain ⟨long, zeros, one⟩ := start
  exact ⟨long, fun k low high => (copied_getElem?.mp (zeros k low high)).1,
    (copied_getElem?.mp one).1⟩

/-- A start code of the frame that ends in the bytes that are copied is one of them. -/
theorem StartCode.in_copied {frame : List UInt8} {first last : Nat}
    (start : StartCode frame first last) (inside : last < (copied frame).length) :
    StartCode (copied frame) first last := by
  obtain ⟨long, zeros, one⟩ := start
  exact ⟨long, fun k low high => copied_getElem?.mpr ⟨zeros k low high, by omega⟩,
    copied_getElem?.mpr ⟨one, inside⟩⟩

/-- The NAL unit of a set that is followed by another start code. -/
theorem unit_of_codes {frame : List UInt8} {ptr : Nat} {front rest : List Code} {code next : Code}
    (met : codesFrom (copied frame) ptr = some (front ++ code :: next :: rest))
    (typed : isSps code.head ∨ isPps code.head) :
    code.nal < next.begin ∧ next.begin + 3 < (copied frame).length ∧
      NalUnit frame code.nal (next.begin - code.nal) ∧ frame[code.nal]? = some code.head := by
  induction front generalizing ptr with
  | cons other front ih => exact ih (codesFrom_cons met).2
  | nil =>
    obtain ⟨here, later⟩ := codesFrom_cons met
    have stay : behind code.nal code.head = code.nal := if_pos typed
    rw [stay] at later
    obtain ⟨following, _⟩ := codesFrom_cons later
    obtain ⟨last, start, follows⟩ := here.start
    obtain ⟨nextLast, nextStart, _⟩ := following.start
    have zero := copied_getElem?.mp following.begin_zero
    have headed := copied_getElem?.mp here.headed
    have one := copied_getElem?.mp nextStart.2.2
    have notSame : code.nal ≠ next.begin := by
      intro same
      rw [same] at headed
      have head : code.head = 0 := Option.some.inj (headed.1.symm.trans zero.1)
      rw [head] at typed
      exact absurd typed (by decide)
    have order := following.order
    have length : (copied frame).length ≤ frame.length := List.length_take_le' _ _
    have sum : code.nal + (next.begin - code.nal) = next.begin := by omega
    have longer := nextStart.1
    have three : next.begin + 3 < (copied frame).length := Nat.lt_of_le_of_lt longer one.2
    refine ⟨by omega, three, ⟨⟨_, last, start.of_copied, follows⟩, by omega, by omega, ?_, ?_⟩,
      headed.1⟩
    · intro k other low high found
      rw [sum] at high
      by_cases inside : other < (copied frame).length
      · -- the start code is in the bytes that were copied
        exact following.first k other low high (found.in_copied inside)
      · -- its zeros would cover the one of the next start code
        have covered := found.2.1 nextLast (by omega) (by omega)
        rw [one.1] at covered
        exact absurd (Option.some.inj covered) (by decide)
    · rw [sum]
      exact .inr ⟨nextLast, nextStart.of_copied⟩

end BoaIpcam.Sprop
