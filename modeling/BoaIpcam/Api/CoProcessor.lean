import BoaIpcam.Lib.Run
import BoaIpcam.Numeral

/-!
# The fan and the heater

In a build with `CO_PROCESSOR` the commands `manual_ctrl_fan` and `manual_ctrl_heater` of
`appro_api.c` send a word to the co-processor: two bits are for the heater, one is for the fan.
Each command remembers the word that it sent last and builds the next one from the word of the
other. The functions that send the word are not part of the source; a command comes with what
they return.
-/
namespace BoaIpcam.CoProcessor

open TransitionSystem

/-! ## The commands -/

/-- `MANUAL_HEATER_ON`. -/
def manualHeaterOn : BitVec 32 := 2

/-- `MANUAL_HEATER_HIGH`. -/
def manualHeaterHigh : BitVec 32 := 3

/-- `MANUAL_FAN`. -/
def manualFan : BitVec 32 := 4

/-- The words that stay between two commands. -/
structure Remembered where
  /-- The static variable `fan_status`. -/
  fanStatus : BitVec 32
  /-- The static variable `heater_status`. -/
  heaterStatus : BitVec 32
deriving DecidableEq, Repr

/-- `OPTION_OK` with a number, or `OPTION_NG`. -/
inductive Answer where
  | ok (value : Int)
  | ng
deriving DecidableEq, Repr

/-- What a command leads to: the words, the word that is sent and the answer. -/
structure Outcome where
  /-- The words that the command leaves. -/
  remembered : Remembered
  /-- The word that goes to the coprocessor, if any. -/
  sent : Option (BitVec 32)
  /-- What is printed. -/
  answer : Answer
deriving DecidableEq, Repr

/-- The number in a value. -/
def number (value : List UInt8) : BitVec 32 := BitVec.ofInt 32 (atoi value)

/-- The number of the fan in an answer. -/
def fanAnswer (fanStatus : BitVec 32) : Int := if fanStatus ≠ 0 then 1 else 0

/-- `manual_ctrl_fan`, where `ManualCtrlFan` returns the result. -/
def manualCtrlFan (before : Remembered) (value : List UInt8) (result : Int) : Outcome :=
  if value = [] then ⟨before, none, .ok (fanAnswer before.fanStatus)⟩
  else if 1 < (number value).toInt then
    ⟨{ before with fanStatus := number value }, none, .ng⟩
  else
    let fanStatus :=
      if number value ≠ 0 then before.heaterStatus ||| manualFan
      else before.heaterStatus &&& ~~~manualFan
    ⟨{ before with fanStatus := fanStatus }, some fanStatus,
      if result < 0 then .ng else .ok (fanAnswer fanStatus)⟩

/-- The switch of `manual_ctrl_heater`: the bits for a number, none for a number that is
refused. -/
def heaterBits (number : BitVec 32) : Option (BitVec 32) :=
  if number = 0 then some 0
  else if number = 1 then some manualHeaterOn
  else if number = 2 then some manualHeaterHigh
  else none

/-- `manual_ctrl_heater`, where `ManualCtrlHeater` returns the result. -/
def manualCtrlHeater (before : Remembered) (value : List UInt8) (result : Int) : Outcome :=
  if value = [] then ⟨before, none, .ok before.heaterStatus.toInt⟩
  else
    match heaterBits (number value) with
    | none => ⟨{ before with heaterStatus := number value }, none, .ng⟩
    | some bits =>
      let heaterStatus := bits ||| before.fanStatus
      ⟨{ before with heaterStatus := heaterStatus }, some heaterStatus,
        if result < 0 then .ng else .ok heaterStatus.toInt⟩

/-- A command with its value and with what the co-processor returns when it is sent a word. -/
inductive Command where
  | fan (value : List UInt8) (result : Int)
  | heater (value : List UInt8) (result : Int)

/-- What a command does. -/
def Command.run (before : Remembered) : Command → Outcome
  | .fan value result => manualCtrlFan before value result
  | .heater value result => manualCtrlHeater before value result

/-- The value of a command. -/
def Command.value : Command → List UInt8
  | .fan value _ => value
  | .heater value _ => value

/-- What the co-processor returns. -/
def Command.result : Command → Int
  | .fan _ result => result
  | .heater _ result => result

/-- The number in a value is none that the command knows. -/
def Command.Unknown : Command → Prop
  | .fan value _ => 1 < (number value).toInt
  | .heater value _ => heaterBits (number value) = none

/-! ## What is asked -/

/-- A command with a value is accepted. Without a value it only asks for the state. -/
def Command.Accepted (before : Remembered) (command : Command) : Prop :=
  command.value ≠ [] ∧ (command.run before).answer ≠ .ng

instance (before : Remembered) (command : Command) : Decidable (command.Accepted before) :=
  inferInstanceAs (Decidable (_ ∧ _))

/-- The remembered words, with what the last accepted commands said about the fan and the heater. -/
structure Traced where
  /-- The words that stay. -/
  remembered : Remembered
  /-- Whether the fan was asked to run. -/
  fan : Bool
  /-- The bits that the heater was asked to have. -/
  heater : BitVec 32

/-- What was said last, when a command is accepted. -/
def Traced.say (s : Traced) : Command → Traced
  | .fan value _ => { s with fan := number value ≠ 0 }
  | .heater value _ => { s with heater := (heaterBits (number value)).getD s.heater }

/-- The traced words after a command. -/
def Traced.step (s : Traced) (command : Command) : Traced :=
  { (if command.Accepted s.remembered then s.say command else s) with
    remembered := (command.run s.remembered).remembered }

/-- Before the first command the fan and the heater are off. -/
def Traced.start : Traced := ⟨⟨0, 0⟩, false, 0⟩

/-- The bits of the heater. -/
def heaterMask : BitVec 32 := 3

/-- A word has the bits that were said last. -/
def Traced.Says (s : Traced) (word : BitVec 32) : Prop :=
  (word &&& manualFan ≠ 0 ↔ s.fan = true) ∧ word &&& heaterMask = s.heater

/-- What is asked of a command: an accepted one sends a word with the bits that were said last, one
with an unknown value leaves the words as they are. -/
structure Kept (s : Traced) (command : Command) : Prop where
  /-- An accepted command sends the bits that were said last. -/
  accepted : command.Accepted s.remembered →
    ∃ word, (command.run s.remembered).sent = some word ∧ (s.step command).Says word
  /-- A command with an unknown value leaves the words. -/
  refused : command.value ≠ [] → command.Unknown →
    (command.run s.remembered).remembered = s.remembered

/-- When a command with a value keeps the words. A number that is refused must be the word already.
For the heater the word of the fan must have no other bits of the heater than those asked for. When
the co-processor fails, the bits that the command is for must be there already. -/
def Meets (before : Remembered) (command : Command) : Prop :=
  command.value ≠ [] →
    match command with
    | .fan value result =>
      if 1 < (number value).toInt then before.fanStatus = number value
      else result < 0 → (before.fanStatus &&& manualFan ≠ 0 ↔ number value ≠ 0)
    | .heater value result =>
      match heaterBits (number value) with
      | none => before.heaterStatus = number value
      | some bits =>
        if result < 0 then
          (bits ||| before.fanStatus) &&& heaterMask = before.heaterStatus &&& heaterMask
        else bits ||| (before.fanStatus &&& heaterMask) = bits

/-! ## The bits of a word -/

/-- The word with the bit of the fan set or cleared, as the fan is on or off. -/
theorem fan_bit (word : BitVec 32) :
    (word ||| manualFan) &&& manualFan = manualFan ∧ (word &&& ~~~manualFan) &&& manualFan = 0 := by
  constructor
  · rw [BitVec.and_or_distrib_right]
    ext i
    simp
  · rw [BitVec.and_assoc]
    exact BitVec.and_zero

/-- The bit of the fan is none of the heater. -/
theorem heater_bits_kept (word : BitVec 32) :
    (word ||| manualFan) &&& heaterMask = word &&& heaterMask ∧
      (word &&& ~~~manualFan) &&& heaterMask = word &&& heaterMask := by
  constructor
  · rw [BitVec.and_or_distrib_right]
    exact BitVec.or_zero
  · rw [BitVec.and_assoc]
    rfl

/-- The bits for a number are bits of the heater. -/
theorem heaterBits_mask {number bits : BitVec 32} (known : heaterBits number = some bits) :
    bits &&& manualFan = 0 ∧ bits &&& heaterMask = bits := by
  unfold heaterBits at known
  split at known
  · cases known
    decide
  · split at known
    · cases known
      decide
    · split at known
      · cases known
        decide
      · cases known

/-- What the words have to do with what was said last. -/
structure Held (s : Traced) : Prop where
  /-- The fan's bit is set when it was asked to run. -/
  fan : s.remembered.fanStatus &&& manualFan ≠ 0 ↔ s.fan = true
  /-- The heater's bits are those that were asked for. -/
  heater : s.remembered.heaterStatus &&& heaterMask = s.heater

section Steps

variable {s : Traced}

/-- A command without a value changes nothing. -/
theorem step_asks {command : Command} (asks : command.value = []) :
    s.step command = s ∧ Kept s command := by
  have refused : ¬command.Accepted s.remembered := fun accepted => accepted.1 asks
  have same : (command.run s.remembered).remembered = s.remembered := by
    cases command with
    | fan value result =>
      change value = [] at asks
      rw [Command.run, manualCtrlFan, if_pos asks]
    | heater value result =>
      change value = [] at asks
      rw [Command.run, manualCtrlHeater, if_pos asks]
  refine ⟨?_, fun accepted => absurd accepted refused, fun _ _ => same⟩
  rw [Traced.step, if_neg refused, same]

/-- A command with an unknown value remembers its number and sends nothing. -/
theorem run_unknown {command : Command} (sets : command.value ≠ []) (unknown : command.Unknown) :
    command.run s.remembered =
      match command with
      | .fan value _ => ⟨{ s.remembered with fanStatus := number value }, none, .ng⟩
      | .heater value _ => ⟨{ s.remembered with heaterStatus := number value }, none, .ng⟩ := by
  cases command with
  | fan value result =>
    change value ≠ [] at sets
    change 1 < (number value).toInt at unknown
    simp only [Command.run, manualCtrlFan, if_neg sets, if_pos unknown]
  | heater value result =>
    change value ≠ [] at sets
    change heaterBits (number value) = none at unknown
    simp only [Command.run, manualCtrlHeater, if_neg sets, unknown]

/-- A command with an unknown value is asked to remember what is remembered already. -/
theorem unknown_kept {command : Command} (held : Held s) (sets : command.value ≠ [])
    (unknown : command.Unknown) :
    (Kept s command ↔ Meets s.remembered command) ∧
      (Meets s.remembered command → Held (s.step command)) := by
  have run := run_unknown (s := s) sets unknown
  have refused : ¬command.Accepted s.remembered := by
    rintro ⟨-, answer⟩
    rw [run] at answer
    cases command <;> exact answer rfl
  have same : (command.run s.remembered).remembered = s.remembered ↔
      Meets s.remembered command := by
    rw [run]
    cases command with
    | fan value result =>
      change 1 < (number value).toInt at unknown
      simp only [Meets, if_pos unknown, sets, ne_eq, not_false_eq_true, forall_const]
      exact ⟨fun equal => (congrArg Remembered.fanStatus equal).symm, fun equal => by rw [← equal]⟩
    | heater value result =>
      change heaterBits (number value) = none at unknown
      simp only [Meets, unknown, sets, ne_eq, not_false_eq_true, forall_const]
      exact ⟨fun equal => (congrArg Remembered.heaterStatus equal).symm,
        fun equal => by rw [← equal]⟩
  constructor
  · constructor
    · exact fun kept => same.mp (kept.refused sets unknown)
    · exact fun meets => ⟨fun accepted => absurd accepted refused, fun _ _ => same.mpr meets⟩
  · intro meets
    rw [Traced.step, if_neg refused, same.mpr meets]
    exact held

/-- The fan command with a value that it knows. -/
theorem fan_kept {value : List UInt8} {result : Int} (held : Held s) (sets : value ≠ [])
    (known : ¬1 < (number value).toInt) :
    (0 ≤ result ∨ Meets s.remembered (.fan value result)) →
      Kept s (.fan value result) ∧ Held (s.step (.fan value result)) := by
  intro meets
  obtain ⟨word, sent, fan, heater⟩ : ∃ word,
      (Command.fan value result).run s.remembered =
        ⟨{ s.remembered with fanStatus := word }, some word,
          if result < 0 then .ng else .ok (fanAnswer word)⟩ ∧
      (word &&& manualFan ≠ 0 ↔ number value ≠ 0) ∧
      word &&& heaterMask = s.remembered.heaterStatus &&& heaterMask := by
    have run : (Command.fan value result).run s.remembered = manualCtrlFan s.remembered value result :=
      rfl
    rw [run, manualCtrlFan, if_neg sets, if_neg known]
    refine ⟨_, rfl, ?_⟩
    have bit := fan_bit s.remembered.heaterStatus
    have bits := heater_bits_kept s.remembered.heaterStatus
    by_cases on : number value ≠ 0
    · rw [if_pos on, bit.1]
      exact ⟨iff_of_true (by decide) on, bits.1⟩
    · rw [if_neg on, bit.2]
      exact ⟨iff_of_false (by decide) on, bits.2⟩
  have refused : (Command.fan value result).value ≠ [] → (Command.fan value result).Unknown →
      ((Command.fan value result).run s.remembered).remembered = s.remembered :=
    fun _ unknown => absurd unknown known
  by_cases failed : result < 0
  · have rejected : ¬(Command.fan value result).Accepted s.remembered := by
      rintro ⟨-, answer⟩
      rw [sent, if_pos failed] at answer
      exact answer rfl
    refine ⟨⟨fun accepted => absurd accepted rejected, refused⟩, ?_⟩
    have bit := (meets.resolve_left (by omega)) sets
    simp only [if_neg known] at bit
    rw [Traced.step, if_neg rejected, sent]
    exact ⟨(fan.trans (bit failed).symm).trans held.fan, held.heater⟩
  · have accepted : (Command.fan value result).Accepted s.remembered := by
      refine ⟨sets, ?_⟩
      rw [sent, if_neg failed]
      exact Answer.noConfusion
    have on : (decide (number value ≠ 0) = true) ↔ number value ≠ 0 := decide_eq_true_iff
    have next : s.step (.fan value result) =
        { s with remembered := { s.remembered with fanStatus := word }
                 fan := number value ≠ 0 } := by
      rw [Traced.step, if_pos accepted, sent]
      rfl
    refine ⟨⟨fun _ => ⟨word, by rw [sent], ?_⟩, refused⟩, ?_⟩
    · rw [next]
      exact ⟨fan.trans on.symm, heater.trans held.heater⟩
    · rw [next]
      exact ⟨fan.trans on.symm, held.heater⟩

/-- The heater command with a value that it knows. -/
theorem heater_kept {value : List UInt8} {result : Int} {bits : BitVec 32} (held : Held s)
    (sets : value ≠ []) (known : heaterBits (number value) = some bits) :
    (Meets s.remembered (.heater value result) →
      Kept s (.heater value result) ∧ Held (s.step (.heater value result))) ∧
    (0 ≤ result → Kept s (.heater value result) → Meets s.remembered (.heater value result)) := by
  obtain ⟨plain, inside⟩ := heaterBits_mask known
  have sent : (Command.heater value result).run s.remembered =
      ⟨{ s.remembered with heaterStatus := bits ||| s.remembered.fanStatus },
        some (bits ||| s.remembered.fanStatus),
        if result < 0 then .ng else .ok (bits ||| s.remembered.fanStatus).toInt⟩ := by
    simp only [Command.run, manualCtrlHeater, if_neg sets, known]
  have fan : (bits ||| s.remembered.fanStatus) &&& manualFan =
      s.remembered.fanStatus &&& manualFan := by
    rw [BitVec.and_or_distrib_right, plain]
    exact BitVec.zero_or
  have heater : (bits ||| s.remembered.fanStatus) &&& heaterMask =
      bits ||| (s.remembered.fanStatus &&& heaterMask) := by
    rw [BitVec.and_or_distrib_right, inside]
  have refused : (Command.heater value result).value ≠ [] →
      (Command.heater value result).Unknown →
      ((Command.heater value result).run s.remembered).remembered = s.remembered := by
    intro _ unknown
    change heaterBits (number value) = none at unknown
    rw [known] at unknown
    cases unknown
  by_cases failed : result < 0
  · have rejected : ¬(Command.heater value result).Accepted s.remembered := by
      rintro ⟨-, answer⟩
      rw [sent, if_pos failed] at answer
      exact answer rfl
    refine ⟨fun meets => ⟨⟨fun accepted => absurd accepted rejected, refused⟩, ?_⟩,
      fun positive => absurd failed (by omega)⟩
    have same := meets sets
    simp only [known, if_pos failed] at same
    rw [Traced.step, if_neg rejected, sent]
    exact ⟨held.fan, same.trans held.heater⟩
  · have accepted : (Command.heater value result).Accepted s.remembered := by
      refine ⟨sets, ?_⟩
      rw [sent, if_neg failed]
      exact Answer.noConfusion
    have next : s.step (.heater value result) =
        { s with remembered :=
                  { s.remembered with heaterStatus := bits ||| s.remembered.fanStatus }
                 heater := bits } := by
      rw [Traced.step, if_pos accepted, sent]
      simp only [Traced.say, known, Option.getD_some]
    have told : (s.step (.heater value result)).Says (bits ||| s.remembered.fanStatus) ↔
        Meets s.remembered (.heater value result) := by
      simp only [next, Traced.Says, fan, held.fan, heater, Meets, known, if_neg failed, true_and]
      exact ⟨fun same _ => same, fun same => same sets⟩
    constructor
    · intro meets
      have word := told.mpr meets
      refine ⟨⟨fun _ => ⟨_, by rw [sent], word⟩, refused⟩, ?_⟩
      rw [next] at word ⊢
      exact ⟨held.fan, word.2⟩
    · intro _ kept
      obtain ⟨word, same, word_told⟩ := kept.accepted accepted
      rw [sent] at same
      cases same
      exact told.mp word_told

/-- A command that meets the condition keeps the words, and the other way round when the
co-processor does not fail. -/
theorem command_kept {command : Command} (held : Held s) :
    (Meets s.remembered command → Kept s command ∧ Held (s.step command)) ∧
      (0 ≤ command.result → Kept s command → Meets s.remembered command) := by
  by_cases sets : command.value = []
  · obtain ⟨same, kept⟩ := step_asks (s := s) sets
    rw [same]
    exact ⟨fun _ => ⟨kept, held⟩, fun _ _ set => absurd sets set⟩
  · by_cases unknown : command.Unknown
    · obtain ⟨same, next⟩ := unknown_kept held sets unknown
      exact ⟨fun meets => ⟨same.mpr meets, next meets⟩, fun _ => same.mp⟩
    · cases command with
      | fan value result =>
        change ¬1 < (number value).toInt at unknown
        change value ≠ [] at sets
        refine ⟨fun meets => fan_kept held sets unknown (.inr meets), fun positive _ _ => ?_⟩
        simp only [if_neg unknown]
        intro failed
        change 0 ≤ result at positive
        omega
      | heater value result =>
        obtain ⟨bits, known⟩ := Option.ne_none_iff_exists'.mp unknown
        exact heater_kept held sets known

end Steps

/-! ## Runs -/

/-- In every run of commands that meet the condition, each accepted command sends a word with the
bits of the fan and of the heater that were said last, and a refused value leaves the remembered
words as they are. When the co-processor never fails, no other runs do so. -/
theorem fan_and_heater_kept (commands : List Command) :
    (Throughout Traced.step (fun s command => Meets s.remembered command) .start commands →
      Throughout Traced.step Kept .start commands) ∧
    ((∀ command ∈ commands, 0 ≤ command.result) → Throughout Traced.step Kept .start commands →
      Throughout Traced.step (fun s command => Meets s.remembered command) .start commands) := by
  have start : Held .start := ⟨by decide, rfl⟩
  constructor
  · exact Throughout.of_invariant Held (fun s command held => (command_kept held).1) start
  · intro works kept
    refine Throughout.of_invariant Held (fun s command held guard => ?_) start
      (kept.and_mem works)
    have meets := (command_kept held).2 guard.1 guard.2
    exact ⟨meets, ((command_kept held).1 meets).2⟩

/-- The fan is switched on, the heater on and higher, and the fan off. -/
theorem fan_and_heater_kept_small :
    Throughout Traced.step Kept .start
      [.fan (ascii "1") 0, .heater (ascii "1") 0, .heater (ascii "2") 0, .fan (ascii "0") 0] :=
  (fan_and_heater_kept _).1 (by
    refine ⟨fun _ => ?_, fun _ => ?_, fun _ => ?_, fun _ => ?_, trivial⟩
    · decide
    · rfl
    · rfl
    · decide)

/-- The heater that is switched off stays on, because the word of the fan still has its bits; and a
refused number replaces the word of the fan. -/
theorem heater_stays_on :
    ¬Throughout Traced.step Kept .start
      [.heater (ascii "2") 0, .fan (ascii "1") 0, .heater (ascii "0") 0] ∧
    ¬Kept .start (.fan (ascii "2") 0) := by
  constructor
  · intro kept
    obtain ⟨word, sent, told⟩ := kept.2.2.1.accepted (by decide)
    cases sent
    exact absurd told.2 (by decide)
  · intro kept
    exact absurd (kept.refused (by decide) (show 1 < (number (ascii "2")).toInt by decide))
      (by decide)

end BoaIpcam.CoProcessor
