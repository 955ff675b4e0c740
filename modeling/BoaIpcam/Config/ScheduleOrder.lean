import BoaIpcam.Config.SchedulePages

/-!
# The order of the arguments of a schedule

The arguments of a page should do the same in every order, store a time only when it is one of the
day, and change the mode only when an argument names one. Whether they do depends on what the
variable of the mode holds at first and on the times that end the loop.
-/
namespace BoaIpcam.SchedulePages

open EarlyExit

/-! ## What is asked -/

/-- A time of the day, as it is stored. -/
def TimeOfDay (time : BitVec 32) : Prop :=
  ∃ hour min : Nat, hour ≤ 23 ∧ min ≤ 59 ∧ time.toNat = hour * 10000 + min * 100

/-- The time that an argument asks for. -/
def askedTime (text : List UInt8) : Int × Int := scanTime text (0, 0)

section Asked

variable (page : Page) (held : Int) (args : List Argument) (cfg : Schedule)

/-- An argument names a mode. -/
def Names (mode : Int) : Prop :=
  ∃ text, (ascii "mode", text) ∈ args ∧ page.modes.named text = some mode

/-- A time ends the loop. -/
def HasLate : Prop :=
  ∃ slot text, (Slot.name slot, text) ∈ args ∧ page.late slot (askedTime text) = true

/-- A time that does not end the loop differs from the entry. -/
def Changes : Prop :=
  ∃ slot text, (Slot.name slot, text) ∈ args ∧ page.late slot (askedTime text) = false ∧
    clock (askedTime text) ≠ cfg.time slot

/-- The mode is that of a schedule before and behind every argument. -/
def Scheduled : Prop :=
  held = page.modes.schedule ∧
    ∀ text, (ascii "mode", text) ∈ args → page.modes.named text = some page.modes.schedule

/-- What is asked of a page: every order of the arguments leaves the same entries, a time that is
stored is one of the day, and the mode is changed only when an argument names one. -/
structure Sound (control : Nat) : Prop where
  /-- The order does not matter. -/
  order : ∀ ordered, args.Perm ordered →
    (serve page held control ordered cfg).cfg = (serve page held control args cfg).cfg
  /-- A stored time is one of the day. -/
  times : ∀ slot, (serve page held control args cfg).cfg.time slot = cfg.time slot ∨
    TimeOfDay ((serve page held control args cfg).cfg.time slot)
  /-- A changed mode is named. -/
  mode : (serve page held control args cfg).cfg.mode ≠ cfg.mode → ∃ mode, Names page args mode

/-- When every time can be stored, those that differ are times of the day. -/
def StoresDays : Prop :=
  Scheduled page held args → ¬HasLate page args → ∀ slot text, (Slot.name slot, text) ∈ args →
    clock (askedTime text) = cfg.time slot ∨ TimeOfDay (clock (askedTime text))

/-- When some of the times may be stored and others not, none of them differs, and a mode that may
be missed because of a late time is stored already. -/
def KeepsTimes : Prop :=
  ¬(Scheduled page held args ∧ ¬HasLate page args) →
    held = page.modes.schedule ∨ Names page args page.modes.schedule →
    ¬Changes page args cfg ∧ (held = page.modes.schedule → HasLate page args →
      ∀ mode, Names page args mode → BitVec.ofInt 8 mode = cfg.mode)

/-- When the mode is stored behind every argument, an argument that does not name it finds it stored,
unless a mode that is named comes through in any order. -/
def KeepsMode : Prop :=
  page.always = true → ∀ arg ∈ args, arg.1 ≠ ascii "mode" →
    ¬(held = page.modes.schedule ∧
      ∃ slot, arg.1 = Slot.name slot ∧ page.late slot (askedTime arg.2) = true) →
    ((∀ mode, ¬Names page args mode) ∨ held = page.modes.schedule ∧ HasLate page args) →
    BitVec.ofInt 8 held = cfg.mode

/-- When a page does what is asked. -/
structure Meets : Prop where
  /-- What is stored is a time of the day. -/
  days : StoresDays page held args cfg
  /-- No time is stored too early or lost. -/
  times : KeepsTimes page held args cfg
  /-- The mode is not changed on its own. -/
  mode : KeepsMode page held args cfg

end Asked

/-! ## What a step does -/

section Step

variable {page : Page} {i : Nat} {s : Serving} {text : List UInt8}

/-- The mode is what the variable holds. -/
theorem writeMode_eq (s : Serving) :
    writeMode s = { s with cfg := { s.cfg with mode := BitVec.ofInt 8 s.value } } := by
  unfold writeMode
  split
  · rfl
  · rename_i same
    have value : s.value = (s.cfg.mode.toNat : Int) := (not_not.mp same).symm
    have stored : BitVec.ofInt 8 s.value = s.cfg.mode := by
      rw [value, BitVec.ofInt_natCast, BitVec.ofNat_toNat, BitVec.setWidth_eq]
    rw [stored]

/-- The argument of a time is not that of the mode. -/
theorem name_ne_mode (slot : Slot) : slot.name ≠ ascii "mode" := by cases slot <;> decide

/-- The arguments of the times are different. -/
theorem name_injective {slot other : Slot} (same : slot.name = other.name) : slot = other := by
  cases slot <;> cases other
  · rfl
  · exact absurd same (by decide)
  · exact absurd same (by decide)
  · rfl

/-- What the end of a step leaves. -/
def settled (page : Page) (s : Serving) : Serving := if page.always then writeMode s else s

/-- The entries behind the end of a step. -/
theorem settled_cfg (s : Serving) : (settled page s).cfg =
    { s.cfg with mode := if page.always then BitVec.ofInt 8 s.value else s.cfg.mode } := by
  unfold settled
  split
  · rw [writeMode_eq]
  · rfl

/-- The times behind the end of a step. -/
theorem settled_time (s : Serving) : (settled page s).cfg.time = s.cfg.time := by rw [settled_cfg]

/-- The rest of the variables behind the end of a step. -/
theorem settled_rest (s : Serving) :
    (settled page s).value = s.value ∧ (settled page s).tmp = s.tmp := by
  unfold settled
  split
  · rw [writeMode_eq]
    exact ⟨rfl, rfl⟩
  · exact ⟨rfl, rfl⟩

/-- An argument that is none of a time passes the part for a time. -/
theorem timeArgument_idle {slot : Slot} {arg : Argument}
    (idle : arg.1 = slot.name → s.value ≠ page.modes.schedule) :
    timeArgument page slot s arg = (s, true) :=
  if_neg fun both => idle both.1 both.2

/-- An argument that is read by none of the parts. -/
theorem step_idle {arg : Argument} (apart : arg.1 ≠ ascii "mode")
    (idle : ∀ slot, arg.1 = Slot.name slot → s.value ≠ page.modes.schedule) :
    step page i s arg = (settled page s, true) := by
  have mode : modeArgument page s arg = (s, true) := if_neg apart
  simp only [step, andThen, mode, timeArgument_idle (idle .start), timeArgument_idle (idle .finish),
    if_true, settled]

/-- A text that names no mode ends the loop. -/
theorem step_unnamed (unnamed : page.modes.named text = none) :
    step page i s (ascii "mode", text) = (s, false) := by
  have mode : modeArgument page s (ascii "mode", text) = (s, false) := by
    rw [modeArgument, if_pos rfl, unnamed]
  simp only [step, andThen, mode]
  rfl

/-- A mode that is named is stored. -/
theorem step_named {mode : Int} (named : page.modes.named text = some mode) :
    (step page i s (ascii "mode", text)).2 = true ∧
      (step page i s (ascii "mode", text)).1.cfg = { s.cfg with mode := BitVec.ofInt 8 mode } ∧
      (step page i s (ascii "mode", text)).1.value = mode ∧
      (step page i s (ascii "mode", text)).1.tmp = s.tmp := by
  have passes (slot : Slot) (s : Serving) :
      timeArgument page slot s (ascii "mode", text) = (s, true) :=
    timeArgument_idle fun same => absurd same.symm (name_ne_mode slot)
  simp only [step, modeArgument, named, andThen, passes, if_true]
  by_cases always : page.always = true
  · simp only [always, if_true, writeMode_eq, and_self]
  · simp only [always, if_false, writeMode_eq, and_self, Bool.false_eq_true]

/-- The part for a time does not read the argument of the other one. -/
theorem timeArgument_other {slot other : Slot} (ne : slot ≠ other) :
    timeArgument page other s (slot.name, text) = (s, true) :=
  timeArgument_idle fun same => absurd (name_injective same) ne

/-- The step for the argument of a time is the part for it, with the end of the step. -/
theorem step_time (slot : Slot) : step page i s (slot.name, text) =
    andThen (timeArgument page slot s (slot.name, text)) fun s => (settled page s, true) := by
  have mode : modeArgument page s (slot.name, text) = (s, true) := if_neg (name_ne_mode slot)
  cases slot with
  | start =>
    have other (s : Serving) : timeArgument page .finish s (Slot.start.name, text) = (s, true) :=
      timeArgument_other Slot.noConfusion
    simp only [step, andThen, mode, other, if_true, settled]
  | finish =>
    have other : timeArgument page .start s (Slot.finish.name, text) = (s, true) :=
      timeArgument_other Slot.noConfusion
    simp only [step, andThen, mode, other, if_true, settled]

/-- A late time ends the loop. -/
theorem step_late {slot : Slot} (scheduled : s.value = page.modes.schedule)
    (fresh : s.tmp slot = (0, 0)) (late : page.late slot (askedTime text) = true) :
    (step page i s (slot.name, text)).2 = false ∧
      (step page i s (slot.name, text)).1.cfg = s.cfg := by
  rw [askedTime] at late
  simp only [step_time, timeArgument, scheduled, and_self, if_true, fresh, late, andThen,
    Bool.false_eq_true, if_false]

/-- Another time is stored. -/
theorem step_stores {slot : Slot} (scheduled : s.value = page.modes.schedule)
    (fresh : s.tmp slot = (0, 0)) (early : page.late slot (askedTime text) = false) :
    (step page i s (slot.name, text)).2 = true ∧
      (step page i s (slot.name, text)).1.cfg =
        { mode := if page.always then BitVec.ofInt 8 s.value else s.cfg.mode
          time := Function.update s.cfg.time slot (clock (askedTime text)) } ∧
      (step page i s (slot.name, text)).1.value = s.value ∧
      ∀ other ≠ slot, (step page i s (slot.name, text)).1.tmp other = s.tmp other := by
  rw [askedTime] at early
  simp only [step_time, timeArgument, scheduled, and_self, if_true, fresh, early, andThen,
    Bool.false_eq_true, if_false, settled_cfg, settled_rest, askedTime, true_and]
  exact fun other ne => Function.update_of_ne ne _ _

end Step

/-! ## What a run leaves -/

section Cons

variable {page : Page} {held mode : Int} {arg : Argument} {args : List Argument} {cfg : Schedule}
  {text : List UInt8}

/-- A mode is named by the first argument or behind it. -/
theorem names_cons : Names page (arg :: args) mode ↔
    (arg.1 = ascii "mode" ∧ page.modes.named arg.2 = some mode) ∨ Names page args mode := by
  constructor
  · rintro ⟨text, member, named⟩
    rcases List.mem_cons.mp member with first | behind
    · rw [← first]
      exact .inl ⟨rfl, named⟩
    · exact .inr ⟨text, behind, named⟩
  · rintro (⟨name, named⟩ | ⟨text, behind, named⟩)
    · exact ⟨arg.2, List.mem_cons.mpr (.inl (Prod.ext name.symm rfl)), named⟩
    · exact ⟨text, List.mem_cons_of_mem arg behind, named⟩

/-- A late time is the first argument or stands behind it. -/
theorem hasLate_cons : HasLate page (arg :: args) ↔
    (∃ slot, arg.1 = Slot.name slot ∧ page.late slot (askedTime arg.2) = true) ∨
      HasLate page args := by
  constructor
  · rintro ⟨slot, text, member, late⟩
    rcases List.mem_cons.mp member with first | behind
    · rw [← first]
      exact .inl ⟨slot, rfl, late⟩
    · exact .inr ⟨slot, text, behind, late⟩
  · rintro (⟨slot, name, late⟩ | ⟨slot, text, behind, late⟩)
    · exact ⟨slot, arg.2, List.mem_cons.mpr (.inl (Prod.ext name.symm rfl)), late⟩
    · exact ⟨slot, text, List.mem_cons_of_mem arg behind, late⟩

/-- The mode is that of a schedule throughout when it is so at first and behind the first argument. -/
theorem scheduled_cons : Scheduled page held (arg :: args) ↔
    (arg.1 = ascii "mode" → page.modes.named arg.2 = some page.modes.schedule) ∧
      Scheduled page held args := by
  constructor
  · rintro ⟨here, all⟩
    refine ⟨fun name => all arg.2 ?_, here, fun text behind => all text (List.mem_cons_of_mem arg behind)⟩
    exact List.mem_cons.mpr (.inl (Prod.ext name.symm rfl))
  · rintro ⟨first, here, all⟩
    refine ⟨here, fun text member => ?_⟩
    rcases List.mem_cons.mp member with same | behind
    · rw [← same] at first
      exact first rfl
    · exact all text behind

/-- A time that differs behind the first argument is one of all. -/
theorem Changes.cons (changes : Changes page args cfg) : Changes page (arg :: args) cfg := by
  obtain ⟨slot, text, behind, early, differs⟩ := changes
  exact ⟨slot, text, List.mem_cons_of_mem arg behind, early, differs⟩

/-- Behind the argument of the mode no mode is named. -/
theorem not_names_behind (distinct : Distinct ((ascii "mode", text) :: args)) :
    ¬Names page args mode := fun ⟨_, behind, _⟩ => distinct.not_behind behind

end Cons

/-- What a page needs of the arguments ahead. -/
structure Ahead (page : Page) (s : Serving) (args : List Argument) : Prop where
  /-- The names ahead are different. -/
  distinct : Distinct args
  /-- The times ahead are not read yet. -/
  fresh : ∀ slot text, (Slot.name slot, text) ∈ args → s.tmp slot = (0, 0)
  /-- The condition on the times. -/
  times : KeepsTimes page s.value args s.cfg
  /-- The condition on the mode. -/
  mode : KeepsMode page s.value args s.cfg

/-- What the arguments leave: the mode that is named, and the times when every one can be stored. -/
structure Left (page : Page) (held : Int) (cfg : Schedule) (args : List Argument) (last : Schedule) :
    Prop where
  /-- The mode that is named. -/
  named : ∀ mode, Names page args mode → last.mode = BitVec.ofInt 8 mode
  /-- The old mode, when none is named. -/
  unnamed : (∀ mode, ¬Names page args mode) → last.mode = cfg.mode
  /-- The times of a schedule. -/
  stored : Scheduled page held args → ¬HasLate page args →
    ∀ slot text, (Slot.name slot, text) ∈ args → last.time slot = clock (askedTime text)
  /-- Other times stay. -/
  others : ∀ slot, (Scheduled page held args → ¬HasLate page args →
    ∀ text, (Slot.name slot, text) ∉ args) → last.time slot = cfg.time slot

section Run

variable {page : Page} {i : Nat} {s after : Serving} {arg : Argument} {args : List Argument}
  {cfg last : Schedule} {text : List UInt8}

/-- A mode that is named first. -/
theorem Ahead.named {mode : Int} (ahead : Ahead page s ((ascii "mode", text) :: args))
    (named : page.modes.named text = some mode)
    (stored : after.cfg = { s.cfg with mode := BitVec.ofInt 8 mode }) (value : after.value = mode)
    (tmp : after.tmp = s.tmp) :
    Ahead page after args ∧ ∀ last, Left page after.value after.cfg args last →
      Left page s.value s.cfg ((ascii "mode", text) :: args) last := by
  have none (other : Int) : ¬Names page args other := not_names_behind ahead.distinct
  have first : Names page ((ascii "mode", text) :: args) mode := names_cons.mpr (.inl ⟨rfl, named⟩)
  have behind {slot : Slot} {text' : List UInt8}
      (member : (slot.name, text') ∈ (ascii "mode", text) :: args) : (slot.name, text') ∈ args :=
    (List.mem_cons.mp member).resolve_left fun same => name_ne_mode slot (congrArg Prod.fst same)
  have lates : HasLate page ((ascii "mode", text) :: args) ↔ HasLate page args := by
    rw [hasLate_cons]
    exact ⟨fun either => either.resolve_left fun ⟨slot, same, _⟩ => name_ne_mode slot same.symm, .inr⟩
  have unchanged (scheduled : mode = page.modes.schedule)
      (not : ¬(Scheduled page s.value ((ascii "mode", text) :: args) ∧
        ¬HasLate page ((ascii "mode", text) :: args))) :
      ¬Changes page ((ascii "mode", text) :: args) s.cfg :=
    (ahead.times not (.inr (scheduled ▸ first))).1
  have times : after.cfg.time = s.cfg.time := by rw [stored]
  refine ⟨⟨ahead.distinct.tail, fun slot text' member => ?_, fun not either => ?_,
    fun _ arg _ _ _ _ => ?_⟩, fun last left => ⟨fun other names => ?_, fun unnamed => ?_,
    fun scheduled early slot text' member => ?_, fun slot apart => ?_⟩⟩
  · rw [tmp]
    exact ahead.fresh slot text' (List.mem_cons_of_mem _ member)
  · rw [value] at not either
    have scheduled := either.resolve_right (none _)
    have late : HasLate page args := by
      by_contra early
      exact not ⟨⟨scheduled, fun _ member => absurd member ahead.distinct.not_behind⟩, early⟩
    refine ⟨fun changes => unchanged scheduled (fun both => both.2 (lates.mpr late)) ?_,
      fun _ _ other names => absurd names (none other)⟩
    rw [Changes, times] at changes
    exact Changes.cons changes
  · rw [value, stored]
  · have same : other = mode := by
      rcases names_cons.mp names with ⟨_, there⟩ | behind
      · exact Option.some.inj (there.symm.trans named)
      · exact absurd behind (none other)
    rw [left.unnamed none, stored, same]
  · exact absurd first (unnamed mode)
  · have here : mode = page.modes.schedule :=
      Option.some.inj (named.symm.trans (scheduled.2 text List.mem_cons_self))
    refine left.stored ⟨value.trans here, fun _ there => absurd there ahead.distinct.not_behind⟩
      (fun late => early (lates.mpr late)) slot text' (behind member)
  · by_cases ready : Scheduled page after.value args ∧ ¬HasLate page args ∧
      ∃ text', (slot.name, text') ∈ args
    · obtain ⟨scheduled, early, text', member⟩ := ready
      have within := List.mem_cons_of_mem (ascii "mode", text) member
      rw [left.stored scheduled early slot text' member]
      by_contra differs
      refine unchanged (value.symm.trans scheduled.1) (fun both => apart both.1 both.2 text' within)
        ⟨slot, text', within, Bool.eq_false_iff.mpr fun late => early ⟨slot, text', member, late⟩,
          differs⟩
    · rw [left.others slot fun scheduled early text' member =>
        ready ⟨scheduled, early, text', member⟩, times]

/-- What the step for an argument that names no mode leaves, unless it is a late time. -/
structure Passed (page : Page) (s : Serving) (arg : Argument) (after : Serving) : Prop where
  /-- `value` stays. -/
  value : after.value = s.value
  /-- The mode is stored again where a page always does so. -/
  mode : after.cfg.mode = if page.always then BitVec.ofInt 8 s.value else s.cfg.mode
  /-- The time of the argument is stored in a schedule. -/
  time : ∀ slot, after.cfg.time slot =
    if arg.1 = Slot.name slot ∧ s.value = page.modes.schedule then clock (askedTime arg.2)
    else s.cfg.time slot
  /-- The other times that were read stay. -/
  tmp : ∀ slot, Slot.name slot ≠ arg.1 → after.tmp slot = s.tmp slot

/-- An argument that names no mode and is no late time comes first. -/
theorem Ahead.passed (ahead : Ahead page s (arg :: args)) (apart : arg.1 ≠ ascii "mode")
    (early : ¬(s.value = page.modes.schedule ∧
      ∃ slot, arg.1 = Slot.name slot ∧ page.late slot (askedTime arg.2) = true))
    (passed : Passed page s arg after) :
    Ahead page after args ∧ ∀ last, Left page after.value after.cfg args last →
      Left page s.value s.cfg (arg :: args) last := by
  have names (mode : Int) : Names page (arg :: args) mode ↔ Names page args mode := by
    rw [names_cons]
    exact ⟨fun either => either.resolve_left fun both => apart both.1, .inr⟩
  have scheduled : Scheduled page s.value (arg :: args) ↔ Scheduled page s.value args := by
    rw [scheduled_cons]
    exact ⟨And.right, fun all => ⟨fun name => absurd name apart, all⟩⟩
  have lates (here : s.value = page.modes.schedule) :
      HasLate page (arg :: args) ↔ HasLate page args := by
    rw [hasLate_cons]
    exact ⟨fun either => either.resolve_left fun late => early ⟨here, late⟩, .inr⟩
  have ready : Scheduled page s.value args ∧ ¬HasLate page args ↔
      Scheduled page s.value (arg :: args) ∧ ¬HasLate page (arg :: args) := by
    rw [scheduled]
    exact and_congr_right fun all => not_congr (lates all.1).symm
  have other {slot : Slot} {text : List UInt8} (member : (slot.name, text) ∈ args) :
      slot.name ≠ arg.1 := fun same => ahead.distinct.not_behind (same ▸ member)
  have time {slot : Slot} (ne : slot.name ≠ arg.1) : after.cfg.time slot = s.cfg.time slot := by
    rw [passed.time, if_neg fun both => ne both.1.symm]
  have written (always : page.always = true)
      (missed : (∀ mode, ¬Names page (arg :: args) mode) ∨
        s.value = page.modes.schedule ∧ HasLate page (arg :: args)) :
      BitVec.ofInt 8 s.value = s.cfg.mode :=
    ahead.mode always arg List.mem_cons_self apart early missed
  refine ⟨⟨ahead.distinct.tail, fun slot text member => ?_, fun not either => ?_,
    fun always _ _ _ _ _ => ?_⟩, fun last left => ⟨fun mode names' => ?_, fun unnamed => ?_,
    fun all none slot text member => ?_, fun slot missing => ?_⟩⟩
  · rw [passed.tmp slot (other member)]
    exact ahead.fresh slot text (List.mem_cons_of_mem arg member)
  · rw [passed.value, ready] at not
    rw [passed.value, ← names] at either
    obtain ⟨unchanged, stored⟩ := ahead.times not either
    refine ⟨fun changes => ?_, fun here late mode named => ?_⟩
    · obtain ⟨slot, text, member, behind, differs⟩ := changes
      rw [time (other member)] at differs
      exact unchanged (Changes.cons ⟨slot, text, member, behind, differs⟩)
    · rw [passed.value] at here
      have within := (lates here).mpr late
      have same := stored here within mode ((names mode).mpr named)
      rw [passed.mode]
      split
      · rename_i always
        rw [same, written always (.inr ⟨here, within⟩)]
      · exact same
  · rw [passed.value, passed.mode, if_pos always]
  · exact left.named mode ((names mode).mp names')
  · rw [left.unnamed fun mode named => unnamed mode ((names mode).mpr named), passed.mode]
    split
    · rename_i always
      exact written always (.inl unnamed)
    · rfl
  · have all' : Scheduled page after.value args := passed.value ▸ scheduled.mp all
    have none' : ¬HasLate page args := fun late => none ((lates all.1).mpr late)
    rcases List.mem_cons.mp member with first | behind
    · have here : arg.1 = slot.name := by rw [← first]
      have absent : ∀ text', (slot.name, text') ∉ args := fun _ behind => other behind here.symm
      rw [left.others slot fun _ _ => absent, passed.time, if_pos ⟨here, all.1⟩, ← first]
    · exact left.stored all' none' slot text behind
  · rw [left.others slot fun all none text member =>
      missing (scheduled.mpr (passed.value ▸ all))
        (ready.mp ⟨passed.value ▸ all, none⟩).2 text (List.mem_cons_of_mem arg member), passed.time]
    split
    · rename_i both
      have first : (slot.name, arg.2) ∈ arg :: args :=
        List.mem_cons.mpr (.inl (Prod.ext both.1.symm rfl))
      have unchanged := (ahead.times (fun ready => missing ready.1 ready.2 _ first) (.inl both.2)).1
      by_contra differs
      exact unchanged ⟨slot, arg.2, first,
        Bool.eq_false_iff.mpr fun late => early ⟨both.2, slot, both.1, late⟩, differs⟩
    · rfl

/-- The step for an argument that names no mode and is no late time. -/
theorem step_passed (apart : arg.1 ≠ ascii "mode")
    (early : ¬(s.value = page.modes.schedule ∧
      ∃ slot, arg.1 = Slot.name slot ∧ page.late slot (askedTime arg.2) = true))
    (fresh : ∀ slot, arg.1 = Slot.name slot → s.tmp slot = (0, 0)) :
    (step page i s arg).2 = true ∧ Passed page s arg (step page i s arg).1 := by
  by_cases stores : s.value = page.modes.schedule ∧ ∃ slot, arg.1 = Slot.name slot
  · obtain ⟨here, slot, name⟩ := stores
    have first : arg = (slot.name, arg.2) := Prod.ext name rfl
    have passes : page.late slot (askedTime arg.2) = false :=
      Bool.eq_false_iff.mpr fun late => early ⟨here, slot, name, late⟩
    obtain ⟨goes, cfg, value, tmp⟩ := step_stores (i := i) here (fresh slot name) passes
    rw [← first] at goes cfg value tmp
    have time : (step page i s arg).1.cfg.time =
        Function.update s.cfg.time slot (clock (askedTime arg.2)) := by rw [cfg]
    refine ⟨goes, value, by rw [cfg], fun other => ?_, fun other ne => ?_⟩
    · rw [time, Function.update_apply]
      by_cases same : other = slot
      · rw [if_pos same, if_pos ⟨same ▸ name, here⟩]
      · rw [if_neg same, if_neg fun both => same (name_injective (both.1.symm.trans name))]
    · exact tmp other fun same => ne (same ▸ name.symm)
  · have idle (slot : Slot) (name : arg.1 = slot.name) : s.value ≠ page.modes.schedule :=
      fun here => stores ⟨here, slot, name⟩
    rw [step_idle apart idle]
    refine ⟨rfl, (settled_rest s).1, by rw [settled_cfg], fun slot => ?_, fun slot _ => ?_⟩
    · rw [settled_time, if_neg fun both => idle slot both.1 both.2]
    · rw [(settled_rest s).2]

/-- A late time that comes first leaves what there is. -/
theorem Ahead.late {slot : Slot} (ahead : Ahead page s ((slot.name, text) :: args))
    (here : s.value = page.modes.schedule) (late : page.late slot (askedTime text) = true) :
    Left page s.value s.cfg ((slot.name, text) :: args) s.cfg := by
  have within : HasLate page ((slot.name, text) :: args) := hasLate_cons.mpr (.inl ⟨slot, rfl, late⟩)
  have stored := (ahead.times (fun both => both.2 within) (.inl here)).2 here within
  exact ⟨fun mode named => (stored mode named).symm, fun _ => rfl, fun _ none => absurd within none,
    fun _ _ => rfl⟩

/-- A text that names no mode leaves what there is when it comes first. -/
theorem Ahead.unnamed (ahead : Ahead page s ((ascii "mode", text) :: args))
    (unnamed : page.modes.named text = none) :
    Left page s.value s.cfg ((ascii "mode", text) :: args) s.cfg := by
  refine ⟨fun mode names => ?_, fun _ => rfl, fun all => ?_, fun _ _ => rfl⟩
  · rcases names_cons.mp names with ⟨_, named⟩ | behind
    · exact absurd (unnamed.symm.trans named) (Option.some_ne_none mode).symm
    · exact absurd behind (not_names_behind ahead.distinct)
  · exact absurd (unnamed.symm.trans (all.2 text List.mem_cons_self)) (Option.some_ne_none _).symm

/-- The step goes on with what is needed, and what is left is that of the arguments behind it. -/
theorem Ahead.goes (ahead : Ahead page s (arg :: args)) (on : (step page i s arg).2 = true) :
    Ahead page (step page i s arg).1 args ∧ ∀ last,
      Left page (step page i s arg).1.value (step page i s arg).1.cfg args last →
      Left page s.value s.cfg (arg :: args) last := by
  by_cases name : arg.1 = ascii "mode"
  · have first : arg = (ascii "mode", arg.2) := Prod.ext name rfl
    rw [first] at ahead on ⊢
    cases named : page.modes.named arg.2 with
    | none =>
      rw [step_unnamed named] at on
      exact absurd on Bool.false_ne_true
    | some mode =>
      obtain ⟨-, cfg, value, tmp⟩ := step_named (i := i) (s := s) named
      exact ahead.named named cfg value tmp
  · have fresh (slot : Slot) (here : arg.1 = slot.name) : s.tmp slot = (0, 0) :=
      ahead.fresh slot arg.2 (List.mem_cons.mpr (.inl (Prod.ext here.symm rfl)))
    by_cases late : s.value = page.modes.schedule ∧
        ∃ slot, arg.1 = Slot.name slot ∧ page.late slot (askedTime arg.2) = true
    · obtain ⟨here, slot, time, late⟩ := late
      have first : arg = (slot.name, arg.2) := Prod.ext time rfl
      have ends := (step_late (i := i) here (fresh slot time) late).1
      rw [← first, on] at ends
      exact absurd ends.symm Bool.false_ne_true
    · exact ahead.passed name late (step_passed name late fresh).2

/-- Where the step ends the loop, what is left is what there is. -/
theorem Ahead.ends (ahead : Ahead page s (arg :: args)) (off : (step page i s arg).2 = false) :
    Left page s.value s.cfg (arg :: args) (step page i s arg).1.cfg := by
  by_cases name : arg.1 = ascii "mode"
  · have first : arg = (ascii "mode", arg.2) := Prod.ext name rfl
    rw [first] at ahead off ⊢
    cases named : page.modes.named arg.2 with
    | none =>
      rw [step_unnamed named]
      exact ahead.unnamed named
    | some mode =>
      rw [(step_named named).1] at off
      exact absurd off.symm Bool.false_ne_true
  · have fresh (slot : Slot) (here : arg.1 = slot.name) : s.tmp slot = (0, 0) :=
      ahead.fresh slot arg.2 (List.mem_cons.mpr (.inl (Prod.ext here.symm rfl)))
    by_cases late : s.value = page.modes.schedule ∧
        ∃ slot, arg.1 = Slot.name slot ∧ page.late slot (askedTime arg.2) = true
    · obtain ⟨here, slot, time, late⟩ := late
      have first : arg = (slot.name, arg.2) := Prod.ext time rfl
      have cfg := (step_late (i := i) here (fresh slot time) late).2
      rw [first] at ahead ⊢
      rw [cfg]
      exact ahead.late here late
    · rw [(step_passed name late fresh).1] at off
      exact absurd off.symm Bool.false_ne_true

/-- What a run leaves. -/
theorem Ahead.run (ahead : Ahead page s args) :
    Left page s.value s.cfg args (loop (step page) i s args).cfg := by
  apply loop_passes (fun _ s args => Ahead page s args)
    (fun _ s args last => Left page s.value s.cfg args last.cfg)
  · intro _ s _
    have none (mode : Int) : ¬Names page [] mode := fun ⟨_, member, _⟩ => List.not_mem_nil member
    exact ⟨fun mode named => absurd named (none mode), fun _ => rfl,
      fun _ _ _ _ member => absurd member List.not_mem_nil, fun _ _ => rfl⟩
  · intro _ _ _ _ ahead on
    have both := ahead.goes on
    exact ⟨both.1, fun last => both.2 last.cfg⟩
  · exact fun _ _ _ _ ahead off => ahead.ends off
  · exact ahead

end Run

/-! ## Every order -/

section Orders

variable {page : Page} {held mode : Int} {control : Nat} {args ordered : List Argument}
  {cfg last other : Schedule}

/-- Every order names the same modes. -/
theorem names_perm (same : args.Perm ordered) : Names page ordered mode ↔ Names page args mode := by
  simp only [Names, same.mem_iff]

/-- Every order has the same late times. -/
theorem hasLate_perm (same : args.Perm ordered) : HasLate page ordered ↔ HasLate page args := by
  simp only [HasLate, same.mem_iff]

/-- The mode is that of a schedule throughout in every order or in none. -/
theorem scheduled_perm (same : args.Perm ordered) :
    Scheduled page held ordered ↔ Scheduled page held args := by
  simp only [Scheduled, same.mem_iff]

/-- What the arguments leave does not depend on their order. -/
theorem Left.perm (left : Left page held cfg ordered last) (same : args.Perm ordered) :
    Left page held cfg args last where
  named mode named := left.named mode ((names_perm same).mpr named)
  unnamed none := left.unnamed fun mode named => none mode ((names_perm same).mp named)
  stored all early slot text member := left.stored ((scheduled_perm same).mpr all)
    (fun late => early ((hasLate_perm same).mp late)) slot text (same.mem_iff.mp member)
  others slot apart := left.others slot fun all early text member =>
    apart ((scheduled_perm same).mp all) (fun late => early ((hasLate_perm same).mpr late)) text
      (same.mem_iff.mpr member)

/-- There is one thing that the arguments leave. -/
theorem Left.unique (left : Left page held cfg args last) (right : Left page held cfg args other) :
    last = other := by
  have modes : last.mode = other.mode := by
    by_cases named : ∃ mode, Names page args mode
    · obtain ⟨mode, named⟩ := named
      rw [left.named mode named, right.named mode named]
    · rw [left.unnamed (not_exists.mp named), right.unnamed (not_exists.mp named)]
  have times : last.time = other.time := by
    funext slot
    by_cases ready : Scheduled page held args ∧ ¬HasLate page args ∧ ∃ text, (slot.name, text) ∈ args
    · obtain ⟨all, early, text, member⟩ := ready
      rw [left.stored all early slot text member, right.stored all early slot text member]
    · have apart (all : Scheduled page held args) (early : ¬HasLate page args) (text : List UInt8) :
          (slot.name, text) ∉ args := fun member => ready ⟨all, early, text, member⟩
      rw [left.others slot apart, right.others slot apart]
  cases last
  cases other
  exact congrArg₂ Schedule.mk modes times

/-- What a page leaves. -/
theorem serve_left (distinct : Distinct args) (times : KeepsTimes page held args cfg)
    (kept : KeepsMode page held args cfg) :
    Left page held cfg args (serve page held control args cfg).cfg := by
  have ahead : Ahead page ⟨cfg, held, fun _ => (0, 0), control⟩ args :=
    ⟨distinct, fun _ _ _ => rfl, times, kept⟩
  exact ahead.run

/-- A page that meets the condition does what is asked. -/
theorem Meets.sound (distinct : Distinct args) (meets : Meets page held args cfg) :
    Sound page held args cfg control := by
  have left : Left page held cfg args (serve page held control args cfg).cfg :=
    serve_left distinct meets.times meets.mode
  refine ⟨fun ordered same => ?_, fun slot => ?_, fun changed => ?_⟩
  · have times : KeepsTimes page held ordered cfg := by
      intro not either
      rw [scheduled_perm same, hasLate_perm same] at not
      rw [names_perm same] at either
      obtain ⟨unchanged, stored⟩ := meets.times not either
      rw [hasLate_perm same, Changes]
      simp only [← same.mem_iff, names_perm same]
      exact ⟨unchanged, stored⟩
    have kept : KeepsMode page held ordered cfg := by
      intro always arg member apart early missed
      simp only [names_perm same, hasLate_perm same] at missed
      exact meets.mode always arg (same.mem_iff.mpr member) apart early missed
    exact ((serve_left (distinct.perm same) times kept).perm same).unique left
  · by_cases ready : Scheduled page held args ∧ ¬HasLate page args ∧ ∃ text, (slot.name, text) ∈ args
    · obtain ⟨all, early, text, member⟩ := ready
      rw [left.stored all early slot text member]
      exact meets.days all early slot text member
    · exact .inl (left.others slot fun all early text member => ready ⟨all, early, text, member⟩)
  · by_contra none
    exact changed (left.unnamed (not_exists.mp none))

end Orders

/-! ## Orders that differ -/

section Frames

variable {page : Page} {i : Nat} {s : Serving} {arg : Argument} {args : List Argument}

/-- The part for a time leaves the mode and the variable of the mode, and the times of other
arguments. -/
theorem timeArgument_keeps (slot : Slot) (s : Serving) (arg : Argument) :
    (timeArgument page slot s arg).1.value = s.value ∧
      (timeArgument page slot s arg).1.cfg.mode = s.cfg.mode ∧
      ∀ other, arg.1 ≠ Slot.name other →
        (timeArgument page slot s arg).1.cfg.time other = s.cfg.time other := by
  unfold timeArgument
  split
  · rename_i both
    dsimp only
    split
    · exact ⟨rfl, rfl, fun _ _ => rfl⟩
    · refine ⟨rfl, rfl, fun other ne => Function.update_of_ne (fun same => ne ?_) _ _⟩
      rw [same]
      exact both.1
  · exact ⟨rfl, rfl, fun _ _ => rfl⟩

/-- An argument that names no mode leaves the variable of the mode and the times of other
arguments; the mode is stored from the variable or left. -/
theorem step_apart (apart : arg.1 ≠ ascii "mode") :
    (step page i s arg).1.value = s.value ∧
      ((step page i s arg).1.cfg.mode = s.cfg.mode ∨
        (step page i s arg).1.cfg.mode = BitVec.ofInt 8 s.value) ∧
      ∀ slot, arg.1 ≠ Slot.name slot →
        (step page i s arg).1.cfg.time slot = s.cfg.time slot := by
  by_cases read : ∃ slot, arg.1 = Slot.name slot
  · obtain ⟨slot, name⟩ := read
    have first : arg = (slot.name, arg.2) := Prod.ext name rfl
    obtain ⟨value, mode, time⟩ := @timeArgument_keeps page slot s arg
    rw [first, step_time, ← first, andThen]
    split
    · refine ⟨(settled_rest _).1.trans value, ?_, fun other ne => ?_⟩
      · rw [settled_cfg, value]
        dsimp only
        split
        · exact .inr rfl
        · exact .inl mode
      · rw [settled_time]
        exact time other ne
    · exact ⟨value, .inl mode, time⟩
  · rw [step_idle apart fun slot name => absurd ⟨slot, name⟩ read]
    refine ⟨(settled_rest s).1, ?_, fun slot _ => ?_⟩
    · rw [settled_cfg]
      dsimp only
      split
      · exact .inr rfl
      · exact .inl rfl
    · rw [settled_time]

/-- The argument of the mode leaves the times. -/
theorem step_mode_time (text : List UInt8) :
    (step page i s (ascii "mode", text)).1.cfg.time = s.cfg.time := by
  cases named : page.modes.named text with
  | none => rw [step_unnamed named]
  | some mode => rw [(step_named named).2.1]

/-- A time is left by arguments that are not its own. -/
theorem loop_time {slot : Slot} (apart : ∀ text, (slot.name, text) ∉ args) :
    (loop (step page) i s args).cfg.time slot = s.cfg.time slot := by
  apply loop_invariant (fun after : Serving => after.cfg.time slot = s.cfg.time slot)
  · intro i after _ arg member kept
    by_cases name : arg.1 = ascii "mode"
    · have first : arg = (ascii "mode", arg.2) := Prod.ext name rfl
      rw [first, step_mode_time, kept]
    · have ne : arg.1 ≠ slot.name := fun same => apart arg.2 (same ▸ member)
      rw [(step_apart name).2.2 slot ne, kept]
  · rfl

/-- A mode that the variable holds already is left when no argument names one. -/
theorem loop_mode (none : ∀ mode, ¬Names page args mode)
    (stored : s.cfg.mode = BitVec.ofInt 8 s.value) :
    (loop (step page) i s args).cfg.mode = s.cfg.mode := by
  have kept : (loop (step page) i s args).value = s.value ∧
      (loop (step page) i s args).cfg.mode = s.cfg.mode := by
    apply loop_invariant (fun after : Serving => after.value = s.value ∧ after.cfg.mode = s.cfg.mode)
    · intro i after _ arg member kept
      by_cases name : arg.1 = ascii "mode"
      · have first : arg = (ascii "mode", arg.2) := Prod.ext name rfl
        cases named : page.modes.named arg.2 with
        | none =>
          rw [first, step_unnamed named]
          exact kept
        | some mode => exact absurd ⟨arg.2, first ▸ member, named⟩ (none mode)
      · obtain ⟨value, mode, -⟩ := @step_apart page i after arg name
        refine ⟨value.trans kept.1, ?_⟩
        rcases mode with same | written
        · exact same.trans kept.2
        · rw [written, kept.1, stored]
    · exact ⟨rfl, rfl⟩
  exact kept.2

/-- The times are left when no argument is of the mode and the variable holds another mode than that
of a schedule. -/
theorem loop_times (apart : ∀ text, (ascii "mode", text) ∉ args)
    (idle : s.value ≠ page.modes.schedule) :
    (loop (step page) i s args).cfg.time = s.cfg.time := by
  have kept : (loop (step page) i s args).value = s.value ∧
      (loop (step page) i s args).cfg.time = s.cfg.time := by
    apply loop_invariant (fun after : Serving => after.value = s.value ∧ after.cfg.time = s.cfg.time)
    · intro i after _ arg member kept
      have name : arg.1 ≠ ascii "mode" := fun same => apart arg.2 (same ▸ member)
      have passes (slot : Slot) (_ : arg.1 = slot.name) : after.value ≠ page.modes.schedule :=
        kept.1.symm ▸ idle
      rw [step_idle name passes]
      refine ⟨(settled_rest after).1.trans kept.1, ?_⟩
      rw [settled_time]
      exact kept.2
    · exact ⟨rfl, rfl⟩
  exact kept.2

end Frames

section Needed

variable {page : Page} {held mode : Int} {control : Nat} {args rest : List Argument}
  {cfg : Schedule} {slot : Slot} {text : List UInt8} {arg : Argument}

/-- A late time that comes first leaves what there is. -/
theorem serve_late_first (here : held = page.modes.schedule)
    (late : page.late slot (askedTime text) = true) :
    (serve page held control ((slot.name, text) :: rest) cfg).cfg = cfg := by
  obtain ⟨ends, same⟩ := step_late (i := 0) (s := ⟨cfg, held, fun _ => (0, 0), control⟩) here rfl late
  rw [serve, loop_ends ends, same]

/-- A mode that is named first is stored in the end, when no other is named. -/
theorem serve_mode_first (distinct : Distinct ((ascii "mode", text) :: rest))
    (named : page.modes.named text = some mode) :
    (serve page held control ((ascii "mode", text) :: rest) cfg).cfg.mode = BitVec.ofInt 8 mode := by
  obtain ⟨goes, same, value, -⟩ :=
    step_named (i := 0) (s := ⟨cfg, held, fun _ => (0, 0), control⟩) named
  have stored := congrArg Schedule.mode same
  rw [serve, loop_goes goes, loop_mode fun _ => not_names_behind distinct]
  · exact stored
  · rw [value]
    exact stored

/-- An argument of the mode that comes first and names another one than that of a schedule, or none,
leaves the times. -/
theorem serve_mode_first_time (distinct : Distinct ((ascii "mode", text) :: rest))
    (apart : page.modes.named text ≠ some page.modes.schedule) :
    (serve page held control ((ascii "mode", text) :: rest) cfg).cfg.time = cfg.time := by
  cases named : page.modes.named text with
  | none =>
    have first := step_unnamed (i := 0) (s := ⟨cfg, held, fun _ => (0, 0), control⟩) named
    rw [serve, loop_ends (by rw [first]), first]
  | some mode =>
    obtain ⟨goes, same, value, -⟩ :=
      step_named (i := 0) (s := ⟨cfg, held, fun _ => (0, 0), control⟩) named
    have idle : mode ≠ page.modes.schedule := fun here => apart (named.trans (congrArg some here))
    rw [serve, loop_goes goes, loop_times (fun _ => distinct.not_behind) (value.symm ▸ idle), same]

/-- A time that comes first in the mode of a schedule is stored in the end. -/
theorem serve_time_first (distinct : Distinct ((slot.name, text) :: rest))
    (here : held = page.modes.schedule) (early : page.late slot (askedTime text) = false) :
    (serve page held control ((slot.name, text) :: rest) cfg).cfg.time slot =
      clock (askedTime text) := by
  obtain ⟨goes, same, -⟩ :=
    step_stores (i := 0) (s := ⟨cfg, held, fun _ => (0, 0), control⟩) here rfl early
  rw [serve, loop_goes goes, loop_time fun _ => distinct.not_behind, same]
  exact Function.update_self _ _ _

/-- A time that comes first in another mode is never stored. -/
theorem serve_time_idle (distinct : Distinct ((slot.name, text) :: rest))
    (idle : held ≠ page.modes.schedule) :
    (serve page held control ((slot.name, text) :: rest) cfg).cfg.time slot = cfg.time slot := by
  have first : step page 0 ⟨cfg, held, fun _ => (0, 0), control⟩ (slot.name, text) =
      (settled page ⟨cfg, held, fun _ => (0, 0), control⟩, true) :=
    step_idle (name_ne_mode slot) fun _ _ => idle
  rw [serve, loop_goes (by rw [first]), loop_time fun _ => distinct.not_behind, first]
  exact congrFun (settled_time _) slot

/-- A time right behind the mode of a schedule is stored in the end. -/
theorem serve_mode_time {named : List UInt8}
    (distinct : Distinct ((ascii "mode", named) :: (slot.name, text) :: rest))
    (scheduled : page.modes.named named = some page.modes.schedule)
    (early : page.late slot (askedTime text) = false) :
    (serve page held control ((ascii "mode", named) :: (slot.name, text) :: rest) cfg).cfg.time slot =
      clock (askedTime text) := by
  obtain ⟨goes, -, value, tmp⟩ :=
    step_named (i := 0) (s := ⟨cfg, held, fun _ => (0, 0), control⟩) scheduled
  have fresh := congrFun tmp slot
  obtain ⟨on, same, -⟩ := step_stores (i := 1) value fresh early
  rw [serve, loop_goes goes, loop_goes on, loop_time fun _ => distinct.tail.not_behind, same]
  exact Function.update_self _ _ _

/-- The times of two orders are the same. -/
theorem Sound.same_time (sound : Sound page held args cfg control) {first second : List Argument}
    (left : args.Perm first) (right : args.Perm second) (slot : Slot) :
    (serve page held control first cfg).cfg.time slot =
      (serve page held control second cfg).cfg.time slot := by
  rw [sound.order first left, sound.order second right]

/-- The modes of two orders are the same. -/
theorem Sound.same_mode (sound : Sound page held args cfg control) {first second : List Argument}
    (left : args.Perm first) (right : args.Perm second) :
    (serve page held control first cfg).cfg.mode = (serve page held control second cfg).cfg.mode := by
  rw [sound.order first left, sound.order second right]

/-- A page that does what is asked stores no time that differs when it may be missed. -/
theorem Sound.unchanged (distinct : Distinct args) (sound : Sound page held args cfg control)
    (not : ¬(Scheduled page held args ∧ ¬HasLate page args))
    (either : held = page.modes.schedule ∨ Names page args page.modes.schedule) :
    ¬Changes page args cfg := by
  rintro ⟨slot, text, member, early, differs⟩
  apply differs
  obtain ⟨rest, front⟩ := exists_front member
  by_cases here : held = page.modes.schedule
  · have stored : (serve page held control ((slot.name, text) :: rest) cfg).cfg.time slot = _ :=
      serve_time_first (distinct.perm front) here early
    rw [← stored]
    by_cases all : ∀ text, (ascii "mode", text) ∈ args →
        page.modes.named text = some page.modes.schedule
    · -- a late time that comes first
      obtain ⟨slot', text', member', late⟩ : HasLate page args := by
        by_contra none
        exact not ⟨⟨here, all⟩, none⟩
      obtain ⟨rest', front'⟩ := exists_front member'
      rw [sound.same_time front front', serve_late_first here late]
    · -- an argument of the mode that comes first
      push Not at all
      obtain ⟨text', member', other⟩ := all
      obtain ⟨rest', front'⟩ := exists_front member'
      rw [sound.same_time front front', serve_mode_first_time (distinct.perm front') other]
  · obtain ⟨text', member', scheduled⟩ := either.resolve_left here
    have ne : (slot.name, text) ≠ (ascii "mode", text') :=
      fun same => name_ne_mode slot (congrArg Prod.fst same)
    obtain ⟨rest', front'⟩ := exists_front₂ member' member ne
    have stored : (serve page held control _ cfg).cfg.time slot = _ :=
      serve_mode_time (distinct.perm front') scheduled early
    rw [← stored, sound.same_time front' front, serve_time_idle (distinct.perm front) here]

/-- A page that does what is asked finds a mode stored that a late time may keep from being so. -/
theorem Sound.stored (distinct : Distinct args) (sound : Sound page held args cfg control)
    (here : held = page.modes.schedule) (late : HasLate page args) (named : Names page args mode) :
    BitVec.ofInt 8 mode = cfg.mode := by
  obtain ⟨slot, text, member, late⟩ := late
  obtain ⟨text', member', named⟩ := named
  obtain ⟨rest, front⟩ := exists_front member
  obtain ⟨rest', front'⟩ := exists_front member'
  have stored : (serve page held control ((ascii "mode", text') :: rest') cfg).cfg.mode = _ :=
    serve_mode_first (distinct.perm front') named
  rw [← stored, sound.same_mode front' front, serve_late_first here late]

/-- A page that does what is asked and stores the mode behind every argument finds it stored. -/
theorem Sound.written (distinct : Distinct args) (sound : Sound page held args cfg control) :
    KeepsMode page held args cfg := by
  intro always arg member apart early missed
  obtain ⟨goes, passed⟩ : _ ∧ Passed page ⟨cfg, held, fun _ => (0, 0), control⟩ arg _ :=
    step_passed (i := 0) apart early fun _ _ => rfl
  have written := passed.mode
  rw [if_pos always] at written
  rcases missed with none | ⟨here, slot, text, member', late⟩
  · obtain ⟨rest, front⟩ := exists_front member
    have behind (mode : Int) : ¬Names page rest mode := fun ⟨text, there, named⟩ =>
      none mode ⟨text, front.mem_iff.mpr (List.mem_cons_of_mem arg there), named⟩
    have left : (serve page held control (arg :: rest) cfg).cfg.mode = BitVec.ofInt 8 held := by
      rw [serve, loop_goes goes, loop_mode behind (passed.value.symm ▸ written), written]
    rw [← left, sound.order _ front]
    by_contra changed
    obtain ⟨mode, named⟩ := sound.mode changed
    exact none mode named
  · have ne : (slot.name, text) ≠ arg := fun same =>
      early ⟨here, slot, by rw [← same], by rw [← same]; exact late⟩
    obtain ⟨rest, front⟩ := exists_front₂ member member' ne
    obtain ⟨rest', front'⟩ := exists_front member'
    have keys : slot.name ≠ arg.1 := by
      intro same
      have twice : (arg.1, text) ∈ (slot.name, text) :: rest := same ▸ List.mem_cons_self
      exact (distinct.perm front).not_behind twice
    obtain ⟨ends, same⟩ := step_late (i := 1) (passed.value.trans here) (passed.tmp slot keys) late
    have left : (serve page held control (arg :: (slot.name, text) :: rest) cfg).cfg.mode =
        BitVec.ofInt 8 held := by
      rw [serve, loop_goes goes, loop_ends ends, same, written]
    rw [← left, sound.same_mode front front', serve_late_first here late]

/-- A page does what is asked exactly when it meets the condition. -/
theorem sound_iff (distinct : Distinct args) :
    Sound page held args cfg control ↔ Meets page held args cfg := by
  refine ⟨fun sound => ?_, fun meets => meets.sound distinct⟩
  have times : KeepsTimes page held args cfg := fun not either =>
    ⟨sound.unchanged distinct not either, fun here late _ named =>
      sound.stored distinct here late named⟩
  have mode := sound.written distinct
  refine ⟨fun all early slot text member => ?_, times, mode⟩
  have left : Left page held cfg args (serve page held control args cfg).cfg :=
    serve_left distinct times mode
  have stored := left.stored all early slot text member
  have day := sound.times slot
  rw [stored] at day
  exact day

end Needed

end BoaIpcam.SchedulePages
